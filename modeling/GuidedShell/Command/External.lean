import GuidedShell.Command.Basic
import GuidedShell.Infix
import GuidedShell.Lookup

/-! Programs as commands. A program runs to its end, and what it wrote is shown then. -/
namespace GuidedShell.Command.External

/-- What a program writes that cannot find what it was to run. -/
def notFoundMarkers : List String := ["not recognized", "not found", "no such file"]

/-- The error output of a program holds one of the markers, in any case of letters. -/
def reportsMissingProgram (stderr : Bytes) : Bool :=
  let said := (Text.lower (Text.ofBytesLossy stderr)).toList
  notFoundMarkers.any fun m => hasInfix m.toList said

/-- The path of the program to run for a name, if there is one. -/
def accept? (s : Setting) (name : String) : Option FilePath :=
  match s.environment.var? s.world "PATH" with
  | none => none
  | some search => s.world.command? (Text.bytes search) (Text.bytes name)

/-- A program without a slash in its path is looked for once more when it is started: along the
session's own search path if the session has one, and then leniently, otherwise along the
world's. -/
def finder (s : Setting) (program : FilePath) : Exec.Finder :=
  if program.contains FilePath.slash then .direct
  else match s.environment.vars.get? "PATH" with
    | some search => .along (Text.bytes search) true
    | none => .ofVars s.world.vars

def launch (s : Setting) (program : FilePath) (args : List String) : Except Fault Launch :=
  Exec.prepare s.world (finder s program) program (args.map Text.bytes)
    (s.environment.childVars s.world) (some s.environment.currentDir)

/-- What is made of a program that has run. -/
def settle (s : Setting) (done : Completion) : Effect :=
  let s := { s with world := { s.world with files := done.files } }
  if !done.ending.isSuccess && reportsMissingProgram done.stderr then
    s.effect (.ok .unresolved) ""
  else
    { s.effect (.ok (.finished done.ending.code)) "" with output := done.stdout ++ done.stderr }

def run (programs : Programs) (s : Setting) (program : FilePath) (name : String)
    (args : List String) : Effect :=
  match launch s program args with
  | .ok l => settle s (programs l s.world.files)
  | .error .notFound => s.effect (.ok .unresolved) ""
  | .error fault => s.effect (.error (.spawn name fault)) ""

end GuidedShell.Command.External
