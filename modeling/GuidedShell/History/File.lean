import GuidedShell.Failure
import GuidedShell.FileSystem.Access
import GuidedShell.History.Basic

/-! The file that keeps a history: one line for each entry. -/
namespace GuidedShell.History

/-- The entries in a file: its lines, trimmed, without the blank ones. -/
def parse (content : Bytes) : List String :=
  ((Text.lines (Text.ofBytesLossy content)).map Text.trim).filter (!·.isEmpty)

/-- The file for these entries. -/
def render (entries : List String) : Bytes :=
  entries.flatMap fun e => Text.bytes e ++ Text.bytes "\n"

/-- The history kept in a file. No file is an empty history. A file that cannot be read gives an
empty history too, with the reason. -/
def load (fs : FileSystem) (here : Location) (file : FilePath) : History × Option Failure :=
  match fs.read here file with
  | .ok content => (ofEntries (parse content) (some file), none)
  | .error .notFound => (ofEntries [] (some file), none)
  | .error fault => (ofEntries [] (some file), some (.history file fault))

/-- Write every entry to the file of the history, if it has one. -/
def save (h : History) (fs : FileSystem) (here : Location) : Except Failure FileSystem :=
  match h.file? with
  | none => .ok fs
  | some file =>
    match fs.write here file (render h.entries) with
    | .ok fs => .ok fs
    | .error fault => .error (.history file fault)

end GuidedShell.History
