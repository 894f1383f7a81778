import GuidedShell.Exec.Launch
import GuidedShell.Script.Command
import GuidedShell.Script.Limits
import GuidedShell.Script.Setting
import GuidedShell.Script.Signals

/-! What a process that carries out a script has for itself. -/
namespace GuidedShell.Script

/-- A variable. One that has no value may still be one of those that programs are to know. -/
structure Variable where
  value? : Option Octets
  exported : Bool
  readonly : Bool
  /-- It stays known when its value is taken away. -/
  lasting : Bool

/-- What a function gives back when it ends. -/
inductive Saved where
  | variable (name : Octets) (before : Option Variable)
  | settings (before : Settings)

/-- What stops the commands that would come next. -/
inductive Leave where
  | leaveLoop (levels : Nat)
  | nextRound (levels : Nat)
  /-- The end of a function, with a status of its own or without. -/
  | leaveFunction (given : Bool)
  /-- An error that ends the script, or the command that catches it. -/
  | fault
  | exit
  /-- The script ends with the command that ran last. -/
  | finish
  /-- The process has ended. -/
  | ended (e : Ending)
  deriving DecidableEq

/-- The script ends, unless somebody catches an error. -/
def Leave.endsScript : Leave → Bool
  | .fault | .exit | .finish | .ended _ => true
  | .leaveLoop _ | .nextRound _ | .leaveFunction _ => false

/-- What a process that carries out a script has for itself. -/
structure Runner where
  process : Nat
  /-- The process that the script started in. -/
  scriptProcess : Nat
  parent : Nat
  name : Octets
  args : List Octets
  /-- The argument that options are to be taken from, and how much of it is gone. -/
  optionIndex : Nat
  optionOffset : Option Nat
  vars : List (Octets × Variable)
  frames : List (List Saved)
  functions : List (Octets × Command)
  aliases : List (Octets × Octets)
  /-- Where programs have been found along the search path, and whether to look again. -/
  found : List (Octets × Nat × Bool)
  documents : List (Nat × Document)
  issued : Nat
  settings : Settings
  /-- How many loops are open. -/
  loops : Nat
  /-- How many functions are open. -/
  depth : Nat
  /-- The line of the command that runs now. -/
  line : Nat
  /-- The line that is being read. -/
  inputLine : Nat
  /-- The command that is part of the language and runs now. -/
  title : Option Octets
  status : Nat
  /-- The status to end with. -/
  kept : Option Nat
  /-- The status of the last command whose output has been taken in. -/
  outputStatus : Nat
  here : Location
  /-- The directory as the script came into it. -/
  logical : Octets
  traps : List (Nat × Octets)
  /-- The signals that are not noticed from the start on. -/
  deaf : List Nat
  /-- An interruption without orders has to wait until those are done that the process waits for. -/
  patient : Bool
  /-- The process waits for others to be done with a part of the script. -/
  waiting : Bool
  interrupted : Bool
  /-- The signals that have come and have orders. -/
  pending : List Nat
  /-- The last of them, if the script has not yet begun to see to them. -/
  alarm : Option Nat
  tracing : Bool
  /-- The streams behind the descriptors. -/
  descriptors : List (Nat × Nat)
  /-- The streams that are kept open beside them. -/
  spare : List Nat
  /-- What the command that runs now has written so far. -/
  buffer : List Octets
  lastBackground : Option Nat
  mask : Nat
  limits : Limits
  /-- How many rounds of loops have been taken in a row. -/
  rounds : Nat

def Runner.held (r : Runner) : List Nat := r.descriptors.map (·.2) ++ r.spare

/-- What a new process is there for. -/
inductive Mission where
  /-- Carry out a command under redirections. -/
  | command (routes : List Route) (tested : Bool) (body : Command)
  /-- Give the process to the first of some programs that can be started. -/
  | launch (words candidates : List Octets)
  /-- Be a script runner that is started with these variables and words. -/
  | program (vars : List (Octets × Octets)) (words : List Octets)

end GuidedShell.Script
