import GuidedShell.Pieces
import GuidedShell.Text

/-! File paths as they are written. -/
namespace GuidedShell

/-- The bytes of a path. They need not be text. -/
abbrev FilePath := Bytes

/-- One step of a path: the name of a directory entry, or a dot or two. -/
abbrev FileName := Bytes

namespace FilePath

def slash : UInt8 := 0x2F

def dot : UInt8 := 0x2E

def here : FileName := [dot]

def parent : FileName := [dot, dot]

def display (p : FilePath) : String := Text.ofBytesLossy p

def isAbsolute (p : FilePath) : Bool := p.head? == some slash

/-- A path taken relative to another. An absolute one stays as it is. -/
def join (base p : FilePath) : FilePath :=
  if isAbsolute p then p
  else if base.isEmpty || base.getLast? == some slash then base ++ p
  else base ++ slash :: p

/-- The step that a slash at the end of a path makes. It stays where it is, which has to be a
directory. -/
def stay : FileName := []

def steps (p : FilePath) : List FileName :=
  (pieces (· == slash) p).filter (!·.isEmpty) ++ if p.getLast? == some slash then [stay] else []

/-- A part of a relative path that says something: slashes may be repeated, and a dot counts only
at the start. -/
inductive Component where
  | here
  | parent
  | name (n : FileName)

def Component.ofStep (s : FileName) : Component :=
  if s == FilePath.here then .here else if s == FilePath.parent then .parent else .name s

def Component.step : Component → FileName
  | .here => FilePath.here
  | .parent => FilePath.parent
  | .name n => n

def components (p : FilePath) : List Component :=
  match pieces (· == slash) p with
  | [] => []
  | first :: rest =>
    ((if first.isEmpty then [] else [first]) ++
      rest.filter fun s => !s.isEmpty && s != FilePath.here).map Component.ofStep

/-- The directories of a search path: what stands between the colons, empty stretches included. -/
def searchList (search : Bytes) : List FilePath := pieces (· == 0x3A) search

/-- A file name without its last extension. A dot at the start belongs to the stem, and the two
names of dots alone are their own stems. -/
def stem (n : FileName) : FileName :=
  if n == parent then n
  else
    let tail := (n.reverse.takeWhile (· != dot)).length
    if tail + 1 < n.length then n.take (n.length - tail - 1) else n

end FilePath

end GuidedShell
