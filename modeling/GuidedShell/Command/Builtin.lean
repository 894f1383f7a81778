import GuidedShell.Command.Basic
import GuidedShell.Locate

/-! The commands that the shell carries out itself. They take no flags, and words that a command has
no use for are ignored. -/
namespace GuidedShell.Command

inductive Builtin where
  | exit | echo | type | cd | pwd | history | clear | help
  deriving DecidableEq

namespace Builtin

def name : Builtin → String
  | .exit => "exit"
  | .echo => "echo"
  | .type => "type"
  | .cd => "cd"
  | .pwd => "pwd"
  | .history => "history"
  | .clear => "clear"
  | .help => "help"

def all : List Builtin := [.exit, .echo, .type, .cd, .pwd, .history, .clear, .help]

def names : List String := all.map name

def ofName? (n : String) : Option Builtin := all.find? (·.name == n)

def runExit (s : Setting) : Effect :=
  { s.effect (.ok (.finished 0)) "" with environment := { s.environment with shouldExit := true } }

def runEcho (args : List String) (s : Setting) : Effect :=
  s.effect (.ok (.finished 0)) (Text.join " " args ++ "\n")

/-- Tell whether a name is a builtin, or where its program is. -/
def runType (programs : Programs) (args : List String) (s : Setting) : Effect :=
  match args.head? with
  | none => s.effect (.ok (.finished 1)) "type: missing operand\n"
  | some n =>
    if names.contains n then s.effect (.ok (.finished 0)) (n ++ " is a shell builtin\n")
    else
      let (path?, files) := s.world.locate programs n
      let s := { s with world := { s.world with files } }
      match path? with
      | some path => s.effect (.ok (.finished 0)) (n ++ " is " ++ FilePath.display path ++ "\n")
      | none => s.effect (.ok (.finished 1)) (n ++ ": not found\n")

/-- The directory that `cd` is asked for: the home directory for no target and for a tilde. -/
def cdTarget (args : List String) (s : Setting) : Except Failure FilePath :=
  let home := match s.environment.home? s.world with
    | some home => .ok home
    | none => .error .homeUnknown
  match args.head? with
  | none => home
  | some t => if t = "~" then home else .ok (Text.bytes t)

/-- Enter the directory that a target means, seen from the current directory of the session. It is
entered by its canonical path. -/
def cdPlace (s : Setting) (target : FilePath) : Except Failure (FilePath × Location) :=
  match s.world.files.absolute s.world.here (FilePath.join s.environment.currentDir target) with
  | .error .notFound => .error (.directoryNotFound target)
  | .error fault => .error (.directoryRefused fault)
  | .ok loc =>
    match s.world.files.enter s.world.here loc.path with
    | .error fault => .error (.directoryRefused fault)
    | .ok entered => .ok (loc.path, entered)

/-- Both the session and its world move, one to the canonical path, the other to where it led. -/
def runCd (args : List String) (s : Setting) : Effect :=
  match cdTarget args s >>= cdPlace s with
  | .error failure => s.effect (.ok (.finished 1)) (failure.message ++ "\n")
  | .ok (canonical, entered) =>
    { s.effect (.ok (.finished 0)) "" with
      environment := { s.environment with currentDir := canonical }
      world := { s.world with here := entered } }

def runPwd (s : Setting) : Effect :=
  s.effect (.ok (.finished 0)) (FilePath.display s.environment.currentDir ++ "\n")

def numbered (first : Nat) : List String → String
  | [] => ""
  | e :: es => "  " ++ Text.decimal first ++ "  " ++ e ++ "\n" ++ numbered (first + 1) es

def runHistory (s : Setting) : Effect :=
  s.effect (.ok (.finished 0)) (numbered 1 s.history.entries)

def runClear (s : Setting) : Effect := s.effect (.ok .clearScreen) ""

def helpText : String :=
  "AuraShell Built-in Commands:\n" ++
    Text.join "" (names.map fun n => "  - " ++ n ++ "\n") ++
    "All other system commands (ls, grep, etc.) are also available.\n"

def runHelp (s : Setting) : Effect := s.effect (.ok (.finished 0)) helpText

def run (programs : Programs) (b : Builtin) (args : List String) (s : Setting) : Effect :=
  match b with
  | .exit => runExit s
  | .echo => runEcho args s
  | .type => runType programs args s
  | .cd => runCd args s
  | .pwd => runPwd s
  | .history => runHistory s
  | .clear => runClear s
  | .help => runHelp s

end Builtin

end GuidedShell.Command
