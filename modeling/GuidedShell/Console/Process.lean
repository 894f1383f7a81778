import GuidedShell.Console.Run

/-! The shell as a process: from its command line and its standard input to its exit code. -/
namespace GuidedShell.Console

/-- What the process writes and returns after a session. A session that has come to its end is no
failure, even if its history could not be saved. Log lines are not counted. -/
def State.report (s : State) : Options.Report := ⟨0, s.display.written, ""⟩

/-- What the process writes and returns, and the files after it. -/
def process (programs : Programs) (w : World) (terminal : String) (words : List String)
    (input : Bytes) (libs : Libraries := .standard) : Options.Report × FileSystem :=
  match libs.parse words with
  | .error report => (report, w.files)
  | .ok options =>
    let settings := Settings.ofOptions options (startEnvironment w) w
    let s := session libs programs w terminal settings.historyFile input
    (s.report, s.session.world.files)

end GuidedShell.Console
