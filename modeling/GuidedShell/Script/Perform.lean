import GuidedShell.Script.Reader
import GuidedShell.Script.Step

/-! Carrying out the text of scripts. -/
namespace GuidedShell.Script

/-- What is known where a command stands. -/
structure Stance where
  /-- Somebody looks at the status of the command, so that it may fail. -/
  tested : Bool
  /-- Nothing comes after the command in its process. -/
  final : Bool

def Stance.plain : Stance := ⟨false, false⟩

/-- A way to carry out a command, or what stands in an empty line. -/
abbrev Carrier := Stance → Option Command → Step Unit

/-- A script that is being read. If it comes from a stream, more of it may follow. -/
structure Feed where
  source : Source
  stream? : Option Nat

namespace Feed

def ofText (text : Octets) : Feed := ⟨.ofText [] 0 1 text, none⟩

def ofStream (stream : Nat) : Feed := ⟨.ofText [] 0 1 [], some stream⟩

def blockSize : Nat := 8191

/-- How many octets of a stream are read until `count` of them are there that are not zero, and
those of them that are not zero. -/
def blocks (count : Nat) : (fuel : Nat) → Octets → Nat × Octets
  | 0, _ => (0, [])
  | n + 1, cs =>
    if count = 0 || cs.isEmpty then (0, [])
    else
      let block := cs.take blockSize
      let kept := block.filter (· != zero)
      let (size, more) := blocks (count - kept.length) n (cs.drop blockSize)
      (block.length + size, kept ++ more)

/-- Text up to the end of the line in which `count` characters of it end. -/
def lines (count : Nat) (cs : Octets) : Octets :=
  let seen := cs.take count
  if seen.isEmpty || seen.getLast? == some '\n' then seen
  else
    let (more, rest) := (cs.drop count).span (· != '\n')
    seen ++ more ++ rest.take 1

/-- How often a line of a text is followed by one more, if perhaps only by the end of all. -/
def turns (cs : Octets) (ended : Bool) : Nat :=
  (if ended then cs else cs.dropLast).count '\n'

end Feed

namespace Step

/-- What a source holds next, read with the aliases of now. -/
def nextIn (s : Source) (m : Machine) : Except Flaw Found × Source :=
  { s with aliases := m.aliases, issued := m.issued }.command?

def noteSource (s : Source) : Step Unit :=
  modify fun m => { m with
    documents := s.documents ++ m.documents
    issued := s.issued
    inputLine := s.line }

/-- What comes next in a script from a stream: what has been found, the source after it, and the
text of the source before. As long as it ends too early, there is a wait for more. -/
def nextAhead (s : Source) (number : Nat) : Step ((Except Flaw Found × Source) × Octets) :=
  persist do
    disclose
    let m ← get
    let ahead := (m.shared.ahead? number).getD []
    let (out, after) := nextIn { s with rest := s.rest ++ ahead.filter (· != zero) } m
    let isShort := after.rest.isEmpty && (after.token = .endOfFile || !out.isOk)
    if isShort && m.shared.isFed number then
      pause (.input number (m.shared.depth number))
      return none
    return some ((out, after), ahead)

/-- What comes next in a script. If it comes from a stream, `ask` is done for each line with the
name of the variable that says how to ask for it. -/
def nextOf (ask : String → Step Unit) (f : Feed) : Step (Found × Feed) := do
  let (out, source) ← match f.stream? with
    | none => do
      let (out, s) := nextIn f.source (← get)
      noteSource s
      pure (out, s)
    | some number => do
      ask "PS1"
      let held := f.source.rest
      let ((out, s), ahead) ← nextAhead f.source number
      noteSource s
      let text := held ++ ahead.filter (· != zero)
      let count := text.length - s.rest.length
      let (size, taken) := Feed.blocks (count - held.length) (ahead.length + 1) ahead
      modify fun m => { m with shared := m.shared.consume number size (ahead.drop size) }
      if (← get).isOn .verbose then mutter (Feed.lines count text)
      for _ in List.range (Feed.turns (text.take count) (s.token = .endOfFile)) do ask "PS2"
      pure (out, { s with rest := (held ++ taken).drop count })
  match out with
  | .error flaw => failReading flaw.describe
  | .ok found =>
    let stream? := if source.token = .endOfFile then none else f.stream?
    return (found, { source, stream? })

variable (go : Carrier)

/-- Carry out what a script holds, one command after another, and tell the status of the last. -/
def readOn (ask : String → Step Unit) (st : Stance) (f : Feed) : Step Nat := do
  let turn : Feed × Nat → Step ((Feed × Nat) × Bool) := fun (f, status) => do
    let (found, f) ← nextOf ask f
    let st := { st with final := st.final && f.source.token = .endOfFile }
    match found with
    | .finished => return ((f, status), false)
    | .nothing =>
      go st none
      return ((f, status), true)
    | .command c =>
      go st (some c)
      return ((f, (← get).status), true)
  return (← iterate turn patience (f, 0)).2

/-- Carry out a script that is read beside the one that asks for it. The status in the end is that
of its last command. -/
def readBeside (st : Stance) (f : Feed) : Step Unit := do
  let outer := (← get).inputLine
  modify fun m => { m with inputLine := 1 }
  let silent (_ : String) : Step Unit := return
  ensuring (do done (← readOn go silent st f)) (modify fun m => { m with inputLine := outer })

def perform (st : Stance) (text : Octets) : Step Unit := readBeside go st (.ofText text)

/-- Carry out the orders for a signal, if it has come. The status stays what it was, unless the
orders end a function with a status of its own. -/
def runTrap (before : Nat) (signal : Nat) : Step Unit := do
  let m ← get
  unless m.pending.contains signal do return
  set { m with pending := m.pending.filter (· != signal) }
  match ← outcome (perform go .plain ((m.traps.lookup signal).getD [])) with
  | .ok _ => done before
  | .error l =>
    if l matches .leaveFunction false | .leaveLoop _ | .nextRound _ then done before
    throw l

/-- Carry out the orders for the signals that have come. If something is left of them, they raise
the alarm again. -/
def runTraps : Step Unit := do
  let m ← get
  if m.alarm.isNone then return
  let status := m.kept.getD m.status
  set { m with kept := some status, alarm := none }
  let restore : Step Unit := modify fun after => { after with kept := m.kept }
  try
    for s in List.range Signals.count do runTrap go status s
  catch l =>
    unless l.endsScript do
      restore
      modify fun m => { m with alarm := m.pending.head? }
    throw l
  restore

/-- Carry out the orders for the end of the process. A status that they end with counts, and so does
an error in them. -/
def runLastTrap : Step (Option Ending) := do
  let m ← get
  match m.traps.lookup 0 with
  | none | some [] => return none
  | some text =>
    set { m with traps := m.traps.filter (·.1 != 0), kept := some m.status, loops := 0 }
    match ← outcome (perform go .plain text) with
    | .error (.ended e) => return some e
    | .error .fault | .error .finish => return none
    | _ =>
      done ((← get).kept.getD 0)
      return none

/-- Carry out what a process is there for, and what belongs to its end. -/
def conclude (act : Step Unit) : Step Ending := do
  let early ← match ← outcome act with
    | .error (.ended e) => pure (some e)
    | out => do
      if let .error .exit := out then
        if let some status := (← get).kept then done status
      runLastTrap go
  return early.getD (.exited ((← get).status % 256))

end Step

end GuidedShell.Script
