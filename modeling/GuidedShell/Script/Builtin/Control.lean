import GuidedShell.Script.Builtin.Describe
import GuidedShell.Script.Builtin.Directory
import GuidedShell.Script.Builtin.Jobs
import GuidedShell.Script.Builtin.Limit
import GuidedShell.Script.Builtin.Read
import GuidedShell.Script.Builtin.Test
import GuidedShell.Script.Format
import GuidedShell.Script.Start

/-! The commands that are part of the language. -/
namespace GuidedShell.Script.Step

def exit (ws : List Octets) : Step Unit := do
  if let w :: _ := ws then
    let n ← count w
    modify fun m => { m with kept := some n.toNat }
  throw .exit

def endFunction (ws : List Octets) : Step Unit := do
  match ws with
  | w :: _ =>
    done (← count w).toNat
    throw (.leaveFunction true)
  | [] => throw (.leaveFunction false)

/-- Leave as many loops as are asked for, or as are open, in some way. -/
def leave (way : Nat → Leave) (ws : List Octets) : Step Unit := do
  let n ← match ws with
    | [] => pure 1
    | w :: _ => count w
  if n = 0 then fail ("Illegal number: ".toList ++ ws.headD [])
  done 0
  let levels := min n.toNat (← get).loops
  unless levels = 0 do throw (way levels)

def shift (ws : List Octets) : Step Unit := do
  let n ← match ws with
    | [] => pure 1
    | w :: _ => count w
  let m ← get
  if n > m.args.length then fail "can't shift that many".toList
  setArgs (m.args.drop n.toNat)
  done 0

def echo (ws : List Octets) : Step Unit := do
  say (Format.echo ws)
  done 0

def printf (ws : List Octets) : Step Unit := do
  match ← operands ws with
  | [] => fail "usage: printf format [arg ...]".toList
  | format :: ws =>
    let p := Format.printf format ws
    say p.written.reverse.flatten
    for remark in p.remarks.reverse do report remark
    if let some flaw := p.flaw then fail flaw
    done (if p.remarks.isEmpty then 0 else 1)

def test (ws : List Octets) : Step Unit := do
  done (if ← Test.holds (← get) (ws.length + 1) false ws then 0 else 1)

def bracketed (ws : List Octets) : Step Unit := do
  if (ws.getLast?.bind (·.head?)) == some ']' then test ws.dropLast
  else fail "missing ]".toList

def times : Step Unit := do
  let line := "0m0.000000s 0m0.000000s\n".toList
  say (line ++ line)
  done 0

variable (go : Carrier)

/-- The path of a script that is to be read beside this one. -/
def scriptPath (name : Octets) : Step Octets := do
  if name.contains '/' then return name
  let m ← get
  let folders := (Machine.folders (m.value "PATH")).filter (·.purpose != .language)
  let paths := folders.map fun d => Machine.inDirectory d.directory name
  match paths.find? fun p => (m.stat? p).any fun node => (node matches .file ..) with
  | some p => return p
  | none => fail (name ++ ": not found".toList)

/-- Carry out the script in a file as if it stood here. -/
def readIn (ws : List Octets) : Step Unit := do
  match ← operands ws with
  | [] => done 0
  | w :: _ =>
    let p ← scriptPath w
    match (← get).openFile .input p with
    | .error refusal => fail (refusal.describe p)
    | .ok (number, m) =>
      set { m with title := some p }
      try readBeside go .plain (.ofStream number)
      catch
        | .leaveFunction _ => pure ()
        | l => throw l

/-- Give this process to a program, if there is a word that names one. -/
def exec (ws : List Octets) : Step Unit := do
  done 0
  unless ws.isEmpty do
    let m ← get
    become go ws (Machine.candidates (ws.headD []) (m.value "PATH") 0)

def builtin (st : Stance) (name : String) (ws : List Octets) : Step Unit := do
  match name with
  | "." => readIn go ws
  | "[" => bracketed ws
  | "alias" => nameAliases ws
  | "bg" | "fg" => moveJob ws
  | "break" => leave .leaveLoop ws
  | "cd" | "chdir" => changeDirectory ws
  | "command" => tellOne go ws
  | "continue" => leave .nextRound ws
  | "echo" => echo ws
  | "eval" => perform go { st with final := false } (Octets.joined [' '] ws)
  | "exec" => exec go ws
  | "exit" => exit ws
  | "export" | "readonly" => declare name.toList ws
  | "false" => done 1
  | "getopts" => getopts ws
  | "hash" => remember go ws
  | "jobs" => showJobs ws
  | "kill" => kill ws
  | "local" => declareLocal ws
  | "printf" => printf ws
  | "pwd" => showDirectory ws
  | "read" => read ws
  | "return" => endFunction ws
  | "set" => reconfigure ws
  | "shift" => shift ws
  | "test" => test ws
  | "times" => times
  | "trap" => trap ws
  | "type" => tell go ws
  | "ulimit" => limit ws
  | "umask" => changeMask ws
  | "unalias" => unalias ws
  | "unset" => forget ws
  | "wait" => wait ws
  | _ => done 0

/-- Carry out one of these commands, under the name that it is called by, and write what it has to
say. An error ends the script only if it `matters`. -/
def runBuiltin (st : Stance) (matters : Bool) (name : String) (title : Octets) (ws : List Octets) :
    Step Unit := do
  let outer := (← get).title
  modify fun m => { m with title := some title }
  let out ← outcome (builtin go st name ws)
  if let .error (.ended e) := out then throw (.ended e)
  let written ← flush
  if !written && (out matches .ok _) then
    let m ← get
    report (m.title.getD [] ++ ": I/O error".toList)
    done (m.status ||| 1)
  modify fun m => { m with title := outer }
  match out with
  | .error .fault => if matters then throw .fault
  | out => MonadExcept.ofExcept out

end GuidedShell.Script.Step
