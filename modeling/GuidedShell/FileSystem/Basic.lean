import GuidedShell.FilePath.Basic

/-! A tree of directories, regular files and symbolic links, kept as a flat list of places. -/
namespace GuidedShell

/-- A place in the tree: the names that lead to it, innermost first. -/
abbrev Location := List FileName

def Location.path (loc : Location) : FilePath :=
  match loc with
  | [] => [FilePath.slash]
  | _ => loc.reverse.flatMap (FilePath.slash :: ·)

/-- What is no file, but can be used like one. -/
inductive Device where
  /-- Takes everything, and gives nothing. -/
  | null
  /-- Takes everything, and gives zeros without end. -/
  | zero
  /-- Takes nothing, for it has no room. -/
  | full
  /-- The terminal of the process, which has none. -/
  | terminal
  deriving DecidableEq

inductive Node where
  | directory
  | file (mode : Nat) (content : Bytes)
  | link (target : FilePath)
  | device (d : Device)
  deriving DecidableEq

/-- A regular file that has an execute bit for somebody. -/
def Node.isProgram : Node → Bool
  | .file mode _ => mode &&& 0o111 != 0
  | _ => false

/-- What may be done with something, or be refused. -/
inductive Access where
  | read
  | write
  /-- For a directory, to look for a name in it. -/
  | execute
  deriving DecidableEq

/-- What there is below the root directory, and what a process may not do with it. Nothing is refused
to the superuser. -/
structure FileSystem where
  entries : List (Location × Node)
  refused : List (Location × Access)
  deriving DecidableEq

namespace FileSystem

def empty : FileSystem := ⟨[], []⟩

def node? (fs : FileSystem) (loc : Location) : Option Node :=
  if loc.isEmpty then some .directory else fs.entries.lookup loc

def permits (fs : FileSystem) (loc : Location) (a : Access) : Bool := !fs.refused.contains (loc, a)

/-- Put something into a place. What is new there belongs to the process. -/
def put (fs : FileSystem) (loc : Location) (node : Node) : FileSystem where
  entries := (loc, node) :: fs.entries.filter (·.1 != loc)
  refused := if (fs.node? loc).isSome then fs.refused else fs.refused.filter (·.1 != loc)

theorem node?_put (fs : FileSystem) (node : Node) {loc : Location} (h : loc ≠ []) :
    (fs.put loc node).node? loc = some node := by
  simp [node?, put, h]

/-- Take away a place and everything below it. -/
def drop (fs : FileSystem) (loc : Location) : FileSystem where
  entries := fs.entries.filter fun e => !loc.isSuffixOf e.1
  refused := fs.refused.filter fun r => !loc.isSuffixOf r.1

def names (fs : FileSystem) (dir : Location) : List FileName :=
  fs.entries.filterMap fun e =>
    match e.1 with
    | [] => none
    | n :: above => if above = dir then some n else none

end FileSystem

end GuidedShell
