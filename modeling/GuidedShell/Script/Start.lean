import GuidedShell.Script.Builtin.Declare
import GuidedShell.Script.Builtin.Directory
import GuidedShell.Script.Perform
import GuidedShell.Script.Redirection
import GuidedShell.Script.Words

/-! Starting programs, and the way of a script runner from its start to its end. -/
namespace GuidedShell.Script

namespace Machine

/-- The words with which the first of some programs is started that can be. -/
def startFirst (m : Machine) (words : List Octets) (fault : Fault) :
    List Octets → Except Fault (List Octets)
  | [] => .error fault
  | p :: ps =>
    let texts := words.map Octets.toBytes
    let vars := m.environment.map fun v => (Octets.toBytes v.1, Octets.toBytes v.2)
    match Exec.start m.files m.here vars Exec.isText (path p) texts with
    | .ok (_, words) => .ok (words.map Octets.ofBytes)
    | .error f =>
      m.startFirst words (if f = .notFound || f = .notDirectory then fault else f) ps

/-- The paths that a program may have along a search path. -/
def candidates (name search : Octets) (skipped : Nat) : List Octets :=
  if name.contains '/' then [name]
  else
    let folders := ((folders search).drop skipped).filter (·.purpose = .programs)
    folders.map fun d => inDirectory d.directory name

/-- The machine of a program that takes the place of the script. -/
def successor (m : Machine) : Machine :=
  let silent := m.traps.filterMap fun (s, orders) => if orders.isEmpty then some s else none
  let parent := ((m.shared.member? m.process).map (·.parent)).getD 0
  .fresh m.shared m.process parent m.descriptors m.here (silent ++ m.deaf) m.mask m.limits

end Machine

namespace Step

/-- The status of a program that cannot be started. -/
def failureStatus (fault : Fault) : Nat :=
  if [Fault.notFound, .notDirectory, .tooManyLinks, .nameTooLong].contains fault then 127 else 126

/-- Take over the variables that the script is started with. -/
def takeOver (vars : List (Octets × Octets)) : Step Unit := do
  for (key, value) in vars do
    if let some (name, value) := assignment? (key ++ '=' :: value) then
      assign name (some value) true false
  assign "IFS".toList (some Machine.gaps) false false
  assign "OPTIND".toList (some ['1']) false false
  let m ← get
  assign "PPID".toList (some (decimal m.parent)) false false
  let given := (m.value? "PWD".toList).filter fun dir =>
    dir.head? == some '/' && (m.files.find m.here (Machine.path dir)).toOption == some m.here
  let dir ← match given with
    | some dir => pure dir
    | none => physical
  noteDirectory dir false

/-- What the words of a script runner ask for, besides settings. -/
structure Request where
  /-- The first word after the options is a script, and not the name of a file with one. -/
  inline : Bool
  /-- The script runner is the first one of a user. -/
  login : Bool

/-- Read the options at the front of the words of a script runner. -/
def startOptions : (fuel : Nat) → Request → List Octets → Step (Request × List Octets)
  | 0, call, ws => return (call, ws)
  | n + 1, call, ws => do
    match ws with
    | ['-'] :: ws | ['-', '-'] :: ws => return (call, ws)
    | (sign :: letters) :: ws =>
      if sign != '-' && sign != '+' then return (call, (sign :: letters) :: ws)
      let call : Request :=
        ⟨call.inline || letters.contains 'c', call.login || letters.contains 'l'⟩
      let letters := letters.filter fun c => c != 'c' && c != 'l'
      startOptions n call (← switchLetters (sign == '-') letters ws)
    | ws => return (call, ws)

variable (go : Carrier)

/-- Read a script of the user's, if there is one. -/
def readProfile (name : Octets) : Step Unit := do
  if let .ok (number, m) := (← get).openFile .input name then
    set m
    readBeside go .plain (.ofStream number)

/-- What a text comes to that is read like a document. One that cannot be expanded stays as it
is. -/
def unfolded (text : Octets) : Step Octets := do
  let m ← get
  let expanded : Step Octets := do
    match (Source.ofText m.aliases m.issued 1 text).document? with
    | .error flaw =>
      modify fun m => { m with inputLine := 1 }
      failReading flaw.describe
    | .ok w => expandText .document w
  match ← outcome expanded with
  | .ok text => return text
  | .error .fault =>
    modify fun after => { after with inputLine := m.inputLine, line := m.line }
    return text
  | .error l => throw l

/-- A variable that holds a text to be expanded, like one of the prompts. -/
def prompt (name : String) : Step Octets := do unfolded ((← get).value name)

/-- Ask for a line, if there is somebody to ask. -/
def ask (name : String) : Step Unit := do
  if (← get).isOn .interactive then mutter (← prompt name)

/-- Carry out the script that a stream holds. Where there is somebody to ask, an error does not end
it. -/
def readAll (number : Nat) : Step Unit :=
  iterate (fun _ => do
    modify fun m => { m with inputLine := 1 }
    match ← outcome (readOn go ask .plain (.ofStream number)) with
    | .ok _ =>
      let m ← get
      if m.isOn .ignoreeof then
        for _ in List.range 50 do mutter "\nUse \x22exit\x22 to leave shell.\n".toList
      else if m.isOn .interactive then mutter ['\n']
      return ((), false)
    | .error .fault =>
      unless (← get).isOn .interactive do throw .fault
      return ((), true)
    | .error l => throw l) patience ()

/-- The script that comes from the standard input. -/
def readInput : Step Unit := do
  match (← get).stream? 0 with
  | some number => readAll go number
  | none => return

/-- Carry out something whose errors end the script only where there is nobody to ask. -/
def forgiving (act : Step Unit) : Step Unit := do
  match ← outcome act with
  | .error .fault => unless (← get).isOn .interactive do throw .fault
  | out => MonadExcept.ofExcept out

/-- What comes before a script: scripts of the user's that are read at the start. -/
def settle (call : Request) : Step Unit := do
  if (← get).isOn .interactive then
    modify fun m => { m with settings := m.settings.switch .monitor true }
  dropMonitor []
  if call.login then
    forgiving (readProfile go "/etc/profile".toList)
    forgiving do readProfile go ((← get).value "HOME" ++ "/.profile".toList)
  let m ← get
  let name := m.value "ENV"
  if m.isOn .interactive && !name.isEmpty then forgiving do readProfile go (← unfolded name)

/-- Read the options of a script runner. While they are read, settings count as on that no option
has switched off; then only those are on that an option has switched on. -/
def startRequest (ws : List Octets) : Step (Request × List Octets) := do
  modify fun m => { m with settings := Setting.table.map (·.1) }
  let _ ← startOptions (ws.length + 1) ⟨false, false⟩ ws
  let said := (← get).buffer
  modify fun m => { m with settings := [] }
  let found ← startOptions (ws.length + 1) ⟨false, false⟩ ws
  modify fun m => { m with buffer := said }
  return found

/-- The work of a script runner. -/
def main (vars : List (Octets × Octets)) (words : List Octets) : Step Unit := do
  modify fun m => { m with name := words.headD [] }
  takeOver vars
  let (call, ws) ← startRequest (words.drop 1)
  let _ ← flush
  let fromInput := (← get).isOn .stdin || (ws.isEmpty && !call.inline)
  modify fun m => { m with
    settings := m.settings.switch .stdin fromInput
    patient := !fromInput || call.inline || m.isOn .interactive }
  if call.inline then
    match ws with
    | [] => fail "-c requires an argument".toList
    | text :: ws =>
      modify fun m => { m with name := ws.headD m.name, args := ws.drop 1 }
      settle go call
      match ← outcome (perform go ⟨false, !fromInput⟩ text) with
      | .ok _ => if fromInput then readInput go
      | .error l =>
        unless l = .fault && (← get).isOn .interactive do throw l
        readInput go
  else if fromInput then
    modify fun m => { m with args := ws }
    settle go call
    readInput go
  else
    let name := ws.headD []
    match (← get).openFile .input name with
    | .error refusal => fail (refusal.describe name)
    | .ok (number, m) =>
      set { m with name, args := ws.drop 1 }
      settle go call
      readAll go number

/-- Give this process to the first of some programs that can be started. -/
def become (words candidates : List Octets) : Step Unit := do
  unless (← get).jobs.isEmpty do giveWay
  let m ← get
  match m.startFirst words .notFound candidates with
  | .error fault =>
    done (failureStatus fault)
    report (words.headD [] ++ ": ".toList ++ complaint fault "not found")
    throw .finish
  | .ok words =>
    set m.successor
    throw (.ended (← conclude go (main go m.environment words)))

/-- Start the first of some programs that can be started, and wait for its end. -/
def external (words candidates : List Octets) : Step Unit :=
  inForeground do
    let process ← newProcess
    start ((← get).child process) (.launch words candidates)
    return [process]

/-- Do what a process is there for. -/
def fulfil (mission : Mission) : Step Ending :=
  conclude go (match mission with
    | .command routes tested body => do
      for r in routes do redirect false r
      go ⟨tested, true⟩ (some body)
    | .launch words candidates => become go words candidates
    | .program vars words => main go vars words)

end Step

end GuidedShell.Script
