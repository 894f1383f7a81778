import GuidedShell.Console.Process
import GuidedShell.FileSystem.Build
import GuidedShell.Script.Programs

/-! The shell as a program. It keeps a world of its own; only the history file is shared with other
sessions, read at the start and written at the end. -/
namespace GuidedShell.Main

/-- The variables of the process that a session uses. -/
def processVars : IO Vars := do
  ["HOME", "PATH"].filterMapM fun name => do
    return (← IO.getEnv name).map (name, ·)

/-- A world with one directory of the user's, and the nodes given. -/
def world (vars : Vars) (here : FilePath) (nodes : List (FilePath × Node)) : World :=
  let nodes := (here, .directory) :: nodes
  let files := nodes.foldl (fun fs n => fs.place [] n.1 n.2) Exec.system
  { files, vars, here := (files.enter [] here).toOption.getD [], home? := none }

/-- What stands at a path. Something that cannot be read is taken for a directory, and where there
is nothing, the directory above counts. -/
def nodes (p : FilePath) : IO (List (FilePath × Node)) := do
  let place := (← IO.currentDir) / FilePath.display p
  try
    return [(p, .file FileSystem.newMode (← IO.FS.readBinFile place).toList)]
  catch
    | .noFileOrDirectory .. =>
      let some above := place.parent | return []
      return if ← above.isDir then [(Text.bytes above.toString, .directory)] else []
    | _ => return [(p, .directory)]

/-- Show what has been written since the last time. -/
def flush (s : Console.State) : IO Console.State := do
  let out ← IO.getStdout
  out.putStr s.display.written
  out.flush
  return { s with display := { s.display with written := "" } }

/-- The next line, or nothing at the end of the input and where it is no text. -/
def line? (input : IO.FS.Stream) : IO (Option String) := do
  try
    let line ← input.getLine
    return if line.isEmpty then none else Console.Libraries.standard.text? (Text.bytes line)
  catch _ => return none

/-- Read lines until the session ends. -/
partial def loop (input : IO.FS.Stream) (plain : Bool) (s : Console.State) :
    IO Console.State := do
  let s ← flush (s.ready plain)
  let (s, flow) := s.take Script.programs (← line? input)
  let s ← flush s
  match flow with
  | .exit => return s
  | .goOn => loop input plain s

/-- Hold a session, and return the exit code. -/
def session (vars : Vars) (here : FilePath) (settings : Settings) : IO Nat := do
  let file := FilePath.join here settings.historyFile
  let w := world vars here (← nodes file)
  let terminal := (← IO.getEnv "TERM").getD ""
  let plain := Console.Libraries.standard.isPlain terminal
  let s ← loop (← IO.getStdin) plain (Console.start w settings.historyFile)
  if let .ok content := s.session.world.files.read [] file then
    IO.FS.writeBinFile (FilePath.display file) ⟨content.toArray⟩
  return s.report.code

end GuidedShell.Main

open GuidedShell in
def main (args : List String) : IO UInt32 := do
  let vars ← Main.processVars
  let here := Text.bytes (toString (← IO.currentDir))
  match Console.Libraries.standard.parse args with
  | .error report =>
    IO.print report.stdout
    IO.eprint report.stderr
    return UInt32.ofNat report.code
  | .ok options =>
    let w := Main.world vars here []
    let settings := Settings.ofOptions options (Console.startEnvironment w) w
    return UInt32.ofNat (← Main.session vars here settings)
