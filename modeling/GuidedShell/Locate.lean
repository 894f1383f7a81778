import GuidedShell.Exec.Launch

/-! Asking the locate utility for the path of a program. -/
namespace GuidedShell

def locator : String := "which"

/-- The path that the utility reports for a name, and the files after it has run. The path is the
first line of what it writes, if it ends well and that line is not blank. -/
def World.locate (w : World) (programs : Programs) (name : String) :
    Option FilePath × FileSystem :=
  match Exec.prepare w (.ofVars w.vars) (Text.bytes locator) [Text.bytes name] w.vars none with
  | .error _ => (none, w.files)
  | .ok launch =>
    let done := programs launch w.files
    let line := ((Text.lines (Text.ofBytesLossy done.stdout)).head?.map Text.trim).filter
      (!·.isEmpty)
    (if done.ending.isSuccess then line.map Text.bytes else none, done.files)

end GuidedShell
