import GuidedShell.Script.Machine

/-! Steps of a script: what changes its machine, and may stop the steps after it. A process that has
to wait for others stands still between two steps, and goes on with what they have left. -/
namespace GuidedShell.Script

/-- What a process waits for. A signal for it is always enough, too. -/
inductive Want where
  /-- That others have had their turn. -/
  | turn
  /-- That a stream holds more than so much, or that no more can come. -/
  | input (stream known : Nat)
  /-- That a stream takes more, or that nobody reads it. -/
  | room (stream : Nat)
  /-- That a process ends that this one has started. -/
  | child

/-- How a process goes on: it is done, or it stands still until others have changed what it shares
with them. -/
inductive Course (α : Type) where
  | done (result : Except Leave α) (m : Machine)
  | paused (want : Want) (shared : Shared) (resume : Shared → Course α)

namespace Course

variable {α β : Type}

def bind (c : Course α) (f : Except Leave α → Machine → Course β) : Course β :=
  match c with
  | .done a m => f a m
  | .paused want shared resume => .paused want shared fun s => (resume s).bind f

end Course

def Step (α : Type) := Machine → Course α

namespace Step

@[inline] def pure {α : Type} (a : α) : Step α := fun m => .done (.ok a) m

@[inline] def bind {α β : Type} (act : Step α) (next : α → Step β) : Step β := fun m =>
  match act m with
  | .done (.ok a) m => next a m
  | .done (.error l) m => .done (.error l) m
  | c => c.bind fun
    | .ok a, m => next a m
    | .error l, m => .done (.error l) m

instance : Monad Step where
  pure := Step.pure
  bind := Step.bind

instance : MonadStateOf Machine Step where
  get := fun m => .done (.ok m) m
  set m := fun _ => .done (.ok ()) m
  modifyGet f := fun m =>
    let (a, m) := f m
    .done (.ok a) m

/-- What an action comes to, without stopping anything. -/
@[inline] def outcome {α : Type} (act : Step α) : Step (Except Leave α) := fun m =>
  match act m with
  | .done a m => .done (.ok a) m
  | c => c.bind fun a m => .done (.ok a) m

instance : MonadExceptOf Leave Step where
  throw l := fun m => .done (.error l) m
  tryCatch act handle := fun m =>
    match act m with
    | .done (.ok a) m => .done (.ok a) m
    | .done (.error l) m => handle l m
    | c => c.bind fun
      | .ok a, m => .done (.ok a) m
      | .error l, m => handle l m

def done (status : Nat) : Step Unit := modify fun m => { m with status }

/-- Carry out one action after another, whether it stops or not. -/
def ensuring {α : Type} (act : Step α) (after : Step Unit) : Step α := do
  let out ← outcome act
  after
  MonadExcept.ofExcept out

/-- Do something again and again, as long as it asks for more. What takes too many rounds is
stopped. -/
def iterate {α : Type} (act : α → Step (α × Bool)) : (rounds : Nat) → α → Step α
  | 0, _ => throw (.ended (.killed 13))
  | n + 1, a => do
    let (a, again) ← act a
    if again then iterate act n a else return a

/-- How often anything may be repeated. -/
def patience : Nat := 10000000

/-- Do something until it comes to something. -/
def persist {α : Type} (act : Step (Option α)) : Step α := do
  match ← iterate (fun _ => do
    let a? ← act
    return (a?, a?.isNone)) patience none with
  | some a => return a
  | none => throw (.ended (.killed 13))

/-- Take notice of a signal. -/
def receive (signal : Nat) : Step Unit := do
  let m ← get
  if signal = 0 || m.deaf.contains signal then return
  match if Signals.isAbsolute signal then none else m.traps.lookup signal with
  | some [] => return
  | some _ =>
    set { m with pending := signal :: m.pending.filter (· != signal), alarm := some signal }
  | none =>
    if signal = Signals.interrupt && m.patient && m.waiting then
      set { m with interrupted := true }
    else unless Signals.isHarmless signal do throw (.ended (.killed signal))

/-- Take notice of the signals that have been sent while others had their turn. -/
def attend : Step Unit := do
  let m ← get
  let mine := m.shared.posted.filter (·.1 == m.process)
  unless mine.isEmpty do
    set { m with shared := { m.shared with posted := m.shared.posted.filter (·.1 != m.process) } }
    for (_, signal) in mine do receive signal

/-- Tell others what the process has open. -/
def disclose : Step Unit :=
  modify fun m => { m with shared := m.shared.note m.process m.held }

/-- Stand still until there is what the process waits for. -/
def pause (want : Want) : Step Unit := do
  disclose
  let m ← modifyGet fun m => ({ m with shared := .empty }, m)
  fun { shared, .. } => .paused want shared fun shared => attend { m with shared, rounds := 0 }

/-- Let others have their turn, if there are any. -/
def giveWay : Step Unit := do
  let m ← get
  let others := m.shared.members.any fun e =>
    e.process != m.process && e.process != launcher && e.ending.isNone
  if others then pause .turn else modify fun m => { m with rounds := 0 }

/-- How many rounds of loops are taken in a row. -/
def slice : Nat := 1000

def countRound : Step Unit := do
  let m ← get
  if m.rounds < slice then set { m with rounds := m.rounds + 1 } else giveWay

/-- Write to a stream, and tell whether that was possible. -/
def put (number : Nat) (cs : Octets) : Step Bool := do
  let turn : Octets × Bool → Step ((Octets × Bool) × Bool) := fun (cs, _) => do
    if (← get).shared.isPipe number then disclose
    let m ← get
    match m.shared.write number m.limits.fileSize? cs with
    | .refused => return ((cs, false), false)
    | .taken shared rest =>
      modify fun m => { m with shared }
      return ((rest, true), !rest.isEmpty)
    | .full =>
      pause (.room number)
      return ((cs, true), true)
    | .broken =>
      receive 13
      return ((cs, false), false)
    | .tooLarge =>
      receive 25
      return ((cs, false), false)
  return (← iterate turn patience (cs, true)).2

/-- Write to a descriptor, and tell whether that was possible. -/
def emit (descriptor : Nat) (cs : Octets) : Step Bool := do
  match (← get).stream? descriptor with
  | some number => put number cs
  | none => return false

/-- Write something about the script itself. -/
def mutter (cs : Octets) : Step Unit := do
  let _ ← emit 2 cs

/-- The front of every message: the script, the line and the command. -/
def heading (m : Machine) (line : Nat) : Octets :=
  m.name ++ ": ".toList ++ decimal line ++ ": ".toList ++
    match m.title with
    | some t => t ++ ": ".toList
    | none => []

def report (text : Octets) : Step Unit := do
  let m ← get
  mutter (heading m m.line ++ text ++ ['\n'])

/-- Give up what runs now with a message. -/
def fail {α : Type} (text : Octets) : Step α := do
  done 2
  report text
  throw .fault

/-- Give up reading the script with a message. -/
def failReading {α : Type} (text : String) : Step α := do
  modify fun m => { m with line := m.inputLine }
  fail ("Syntax error: ".toList ++ text.toList)

/-- Let the command that runs now write something. -/
def say (cs : Octets) : Step Unit := modify fun m => { m with buffer := cs :: m.buffer }

/-- Write what the command that runs now has to say, and tell whether that was possible. -/
def flush : Step Bool := do
  let m ← get
  if m.buffer.isEmpty then return true
  let text := m.buffer.reverse.flatten
  set { m with buffer := [] }
  if text.isEmpty then return true
  emit 1 text

/-- Why a file cannot be used. If it is not there, `missing` says so. -/
def complaint (fault : Fault) (missing : String) : Octets :=
  if fault = .notFound || fault = .notDirectory then missing.toList
  else Octets.ofString fault.describe

end Step

end GuidedShell.Script
