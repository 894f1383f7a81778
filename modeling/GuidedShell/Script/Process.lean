import GuidedShell.Script.Step

/-! The processes that carry out parts of a script. -/
namespace GuidedShell.Script.Step

def newProcess : Step Nat :=
  modifyGet fun m =>
    (m.shared.nextProcess,
      { m with shared := { m.shared with nextProcess := m.shared.nextProcess + 1 } })

/-- Start a process. It begins when others have their turn. -/
def start (r : Runner) (mission : Mission) : Step Unit :=
  modify fun m => { m with shared := { m.shared with
    newborn := m.shared.newborn ++ [(r, mission)]
    members := m.shared.members ++ [⟨r.process, m.process, r.held, none⟩] } }

/-- Start processes that carry out commands, each of which reads what the one before it writes. -/
def startPipeline (prepare : Runner → Runner) (tested : Bool) (routes : List Route)
    (input : Option Nat) : List (Nat × Command) → Step Unit
  | [] => return
  | (process, c) :: rest => do
    let (output, next) ← if rest.isEmpty then pure (none, none) else do
      let m ← get
      let (reading, writing, shared) := m.shared.addPipe []
      set { m with shared }
      pure (some writing, some reading)
    let use (d : Nat) (stream? : Option Nat) (r : Runner) : Runner :=
      match stream? with
      | some n => { r with descriptors := (d, n) :: r.descriptors.filter (·.1 != d) }
      | none => r
    start (use 1 output (use 0 input (prepare ((← get).child process))))
      (.command routes tested c)
    startPipeline prepare tested routes next rest

/-- Take notice of the processes that have ended, and say what of those in `watched` deserves
mention. -/
def noticeEnds (watched : List Nat) : Step (List (Nat × Ending)) := do
  let m ← get
  let (endings, shared) := m.shared.reap m.process
  if endings.isEmpty then return []
  let note (j : Job) : Job := endings.foldl (fun j e => j.note e.1 e.2) j
  set { m with shared, jobs := m.jobs.map (Option.map note) }
  for (p, e) in endings do
    if let .killed s := e then
      if watched.contains p then mutter (Signals.obituary s)
  return endings

/-- Wait until some processes have ended, and tell how. -/
def waitFor (processes : List Nat) : Step (List (Nat × Ending)) :=
  iterate (fun known => do
    let known := known ++ (← noticeEnds processes).filter (processes.contains ·.1)
    if known.length < processes.length then
      pause .child
      return (known, true)
    return (known, false)) patience []

/-- Wait for others to be done with a part of the script. An interruption counts afterwards. -/
def awaiting {α : Type} (act : Step α) : Step α := do
  modify fun m => { m with waiting := true }
  let a ← act
  if (← get).interrupted then throw (.ended (.killed Signals.interrupt))
  modify fun m => { m with waiting := false }
  return a

/-- Wait for processes that have been started for a part of the script. -/
def inForeground (act : Step (List Nat)) : Step Unit := do
  modify fun m => m.claimJob.1
  let processes ← act
  let endings ← awaiting (waitFor processes)
  if let some e := processes.getLast?.bind (endings.lookup ·) then done e.code

/-- All that comes in a stream until its end. -/
def drain (number : Nat) : Step Octets := do
  let texts ← iterate (fun texts => do
    disclose
    let m ← get
    let text := (m.shared.ahead? number).getD []
    let isFed := m.shared.isFed number
    set { m with shared := m.shared.consume number text.length [] }
    if isFed then pause (.input number 0)
    return (text :: texts, isFed)) patience []
  return texts.reverse.flatten

/-- What a command writes that another process carries out. -/
def capture (body : Option Command) : Step Octets := do
  match body with
  | none => return []
  | some c =>
    let m ← get
    let (reading, writing, shared) := m.shared.addPipe []
    set { m.claimJob.1 with shared }
    let process ← newProcess
    let r := m.child process
    start { r with descriptors := (1, writing) :: r.descriptors.filter (·.1 != 1) }
      (.command [] false c)
    modify fun m => { m with spare := reading :: m.spare }
    awaiting do
      let text ← ensuring (drain reading) (modify fun after => { after with spare := m.spare })
      for (_, e) in ← waitFor [process] do modify fun m => { m with outputStatus := e.code }
      return text

/-- Carry out commands in processes of their own, and wait for them. -/
def pipeline (tested : Bool) (routes : List Route) (elements : List Command) : Step Unit :=
  inForeground do
    let elements ← elements.mapM fun c => do return (← newProcess, c)
    startPipeline id tested routes none elements
    return elements.map (·.1)

/-- Tell processes to carry out commands while this one goes on. They have nothing to read, and take
no notice of the user's wish to interrupt. -/
def background (tested : Bool) (routes : List Route) (elements : List Command) : Step Unit := do
  let elements ← elements.mapM fun c => do return (← newProcess, c)
  let m ← get
  let (input, shared) := m.shared.addStream ⟨.device .null, true, false, false, 0⟩
  let (m, n) := { m with shared }.claimJob
  let processes := elements.map Prod.fst
  let job : Job := ⟨processes.map (·, none), false⟩
  set { m.putJob n (some job) with lastBackground := processes.getLast? }
  startPipeline (fun r => { r with deaf := [2, 3] ++ r.deaf }) tested routes (some input) elements
  done 0

end GuidedShell.Script.Step
