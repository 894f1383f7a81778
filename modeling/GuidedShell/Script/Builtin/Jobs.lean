import GuidedShell.Script.Builtin.Options
import GuidedShell.Script.Process

/-! Signals between processes, orders for signals, and jobs. -/
namespace GuidedShell.Script

def Job.describe (j : Job) : Octets :=
  match j.ending? with
  | none => "Running".toList
  | some (.exited 0) => "Done".toList
  | some (.exited n) => "Done(".toList ++ decimal n ++ [')']
  | some (.killed s) => Signals.describe s

namespace Step

/-- A job that a word names, and its place. -/
def jobNamed (w : Octets) : Step (Nat × Job) := do
  let m ← get
  let jobs := m.latestJobs
  let found (j? : Option (Nat × Job)) (complaint : Octets) : Step (Nat × Job) :=
    match j? with
    | some j => return j
    | none => fail complaint
  match w with
  | ['%'] | ['%', '+'] | ['%', '%'] => found jobs.head? "No current job".toList
  | ['%', '-'] => found jobs[1]? "No previous job".toList
  | _ =>
    let number? := if w.head? == some '%' then Numeral.ofDigits? (w.drop 1) else none
    found (number?.bind fun k => jobs.find? (·.1 + 1 == k)) ("No such job: ".toList ++ w)

/-- Show a job. One that has ended is forgotten. -/
def showJob (detail : Char) (n : Nat) (j : Job) : Step Unit := do
  let m ← get
  let process := decimal j.leader
  if detail == 'p' then
    say (process ++ ['\n'])
    return
  let latest := m.latestJobs.map (·.1)
  let mark := if latest.head? = some n then '+' else if latest[1]? = some n then '-' else ' '
  let front := '[' :: decimal (n + 1) ++ [']', ' ', mark, ' '] ++
    (if detail == 'l' then process ++ [' '] else []) ++ j.describe
  say (front ++ List.replicate (max 1 (33 - front.length)) ' ' ++
    (j.processes.drop 1).flatMap (fun _ => [' ', '|', ' ']) ++ ['\n'])
  if j.isDone then modify (·.putJob n none)

def showJobs (ws : List Octets) : Step Unit := do
  let _ ← noticeEnds []
  let (given, ws) ← optionsOf "lp" ws
  let detail := if given.any (·.1 == 'p') then 'p' else if given.isEmpty then ' ' else 'l'
  for w in ws do
    let (n, j) ← jobNamed w
    showJob detail n j
  if ws.isEmpty then
    for (n, j) in (← get).latestJobs do showJob detail n j
  done 0

/-- Bring a job to the front or to the back, which is possible only where jobs are controlled. -/
def moveJob (ws : List Octets) : Step Unit := do
  let ws ← operands ws
  let _ ← jobNamed (ws.headD ['%'])
  fail ("job ".toList ++ ws.headD "(null)".toList ++ " not created under job control".toList)

def trap (ws : List Octets) : Step Unit := do
  done 0
  match ← operands ws with
  | [] =>
    let m ← get
    for s in List.range Signals.count do
      if let some orders := m.traps.lookup s then
        say ("trap -- ".toList ++ enclosed orders ++ ' ' :: Signals.name s ++ ['\n'])
  | w :: ws =>
    let withdraws := ws.isEmpty || (Signals.ofNumber? w).isSome
    let orders? := if withdraws || w = ['-'] then none else some w
    for w in if withdraws then w :: ws else ws do
      match Signals.parse? 0 w with
      | some s =>
        modify fun m =>
          let others := m.traps.filter (·.1 != s)
          { m with
            traps := match orders? with
              | some orders => (s, orders) :: others
              | none => others
            patient := m.patient && (s != Signals.interrupt || m.process = m.scriptProcess) }
      | none =>
        mutter ("trap: ".toList ++ w ++ ": bad trap\n".toList)
        done 1
        return

/-- Send a signal to another process, which can see to it at once. -/
def postSignal (signal process : Nat) : Step Unit :=
  unless signal = 0 do
    modify fun m => { m with shared := m.shared.post process signal }
    giveWay

/-- Send a signal to a process, and tell whether there is one. All processes of the script together
go by the number 0. -/
def sendSignal (signal : Nat) (process : Int) : Step Bool := do
  let m ← get
  if process = m.process then
    if signal = 19 then postSignal signal m.process else receive signal
    return true
  if process = 0 then
    for e in m.shared.members do
      unless e.process = m.process do postSignal signal e.process
    receive signal
    return true
  if process < 0 then return false
  match m.shared.member? process.toNat with
  | none => return false
  | some _ =>
    postSignal signal process.toNat
    return true

def killUsage {α : Type} : Step α :=
  fail ("Usage: kill [-s sigspec | -signum | -sigspec] [pid | job]... or\n".toList ++
    "kill -l [exitstatus]".toList)

def listSignals (ws : List Octets) : Step Unit := do
  match ws with
  | [] =>
    say "0\n".toList
    for s in (List.range Signals.count).drop 1 do say (Signals.name s ++ ['\n'])
  | w :: _ =>
    let n ← count w
    let s := if n > 128 then n - 128 else n
    if s ≤ 0 || s ≥ Signals.count then
      fail ("invalid signal number or exit status: ".toList ++ w)
    say (Signals.name s.toNat ++ ['\n'])
  done 0

def kill (ws : List Octets) : Step Unit := do
  let (signal?, lists, ws) ← match ws with
    | [] => killUsage
    | ('-' :: text) :: rest =>
      match Signals.parse? 1 text with
      | some s => pure (some s, false, rest)
      | none => do
        let (given, rest) ← optionsOf "ls:" ws
        let named := given.filter (·.1 == 's')
        for (_, w) in named do
          if (Signals.parse? 1 w).isNone then
            fail ("invalid signal number or name: ".toList ++ w)
        let last := named.getLast?.bind fun g => Signals.parse? 1 g.2
        pure (last, given.any (·.1 == 'l'), rest)
    | ws => pure (none, false, ws)
  if lists then
    if signal?.isSome && !ws.isEmpty then killUsage
    listSignals ws
    return
  if ws.isEmpty then killUsage
  let mut status := 0
  for w in ws do
    let process ← match w with
      | '%' :: _ => do pure (-((← jobNamed w).2.leader : Int))
      | '-' :: digits => do pure (-(← count digits))
      | _ => count w
    unless ← sendSignal (signal?.getD 15) process do
      report "No such process\n".toList
      status := 1
  done status

/-- Wait until `isOver` holds of the jobs. If a signal with orders comes first, it is the answer. -/
def sitOut (watched : List Nat) (isOver : Machine → Bool) : Step (Option Nat) :=
  persist do
    let _ ← noticeEnds watched
    let m ← get
    if isOver m then return some none
    if let some s := m.alarm.filter (· != 17) then return some (some s)
    pause .child
    return none

def wait (ws : List Octets) : Step Unit := do
  match ← operands ws with
  | [] =>
    match ← sitOut [] fun m => m.latestJobs.all (·.2.isDone) with
    | some s => done (128 + s)
    | none =>
      modify fun m => { m with jobs := m.jobs.map (·.map fun j => { j with awaited := true }) }
      done 0
  | ws =>
    let mut status := 127
    for w in ws do
      let job? ← if w.head? == some '%' then some <$> jobNamed w else do
        let process ← count w
        pure ((← get).latestJobs.find? fun j =>
          (j.2.processes.getLast?.map fun e => Int.ofNat e.1) == some process)
      if let some (n, j) := job? then
        let isOver (m : Machine) : Bool := (m.jobs[n]?.join).all (·.isDone)
        if let some s ← sitOut (j.processes.map (·.1)) isOver then
          done (128 + s)
          return
        let after := ((← get).jobs[n]?.join).getD j
        modify (·.putJob n (some { after with awaited := true }))
        status := (after.ending?.map Ending.code).getD 0
    done status

end Step

end GuidedShell.Script
