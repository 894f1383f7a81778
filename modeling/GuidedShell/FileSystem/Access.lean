import GuidedShell.FileSystem.Walk

/-! Reading and changing what a path names, as far as the process may do it. -/
namespace GuidedShell.FileSystem

def stat (fs : FileSystem) (here : Location) (p : FilePath) : Except Fault Node := do
  let loc ← fs.find here p
  match fs.node? loc with
  | some node => .ok node
  | none => .error .notFound

def exist (fs : FileSystem) (here : Location) (p : FilePath) : Bool :=
  (fs.stat here p).isOk

/-- Something is there that the path names, and this may be done with it. -/
def allows (fs : FileSystem) (here : Location) (p : FilePath) (a : Access) : Bool :=
  (fs.find here p).toOption.any (fs.permits · a)

/-- The whole content of a file. A device that gives zeros without end takes all memory before it is
read. -/
def read (fs : FileSystem) (here : Location) (p : FilePath) : Except Fault Bytes := do
  let node ← fs.stat here p
  if !fs.allows here p .read then .error .permissionDenied
  else match node with
    | .file _ content => .ok content
    | .device .null => .ok []
    | .device .terminal => .error .noDevice
    | .device _ => .error .outOfMemory
    | .directory | .link _ => .error .isDirectory

def list (fs : FileSystem) (here : Location) (p : FilePath) : Except Fault (List FileName) := do
  let loc ← fs.find here p
  match fs.node? loc with
  | some .directory => if fs.permits loc .read then .ok (fs.names loc) else .error .permissionDenied
  | _ => .error .notDirectory

def enter (fs : FileSystem) (here : Location) (p : FilePath) : Except Fault Location := do
  let loc ← fs.find here p
  match fs.node? loc with
  | some .directory => if fs.permits loc .execute then .ok loc else .error .permissionDenied
  | _ => .error .notDirectory

/-- The mode of a file that a program creates. -/
def newMode : Nat := 0o644

/-- Where a file is written that a path names. A link is never written to: where a way ends at one,
it has taken the place of a directory that the process is still in. -/
def target (fs : FileSystem) (here : Location) (p : FilePath) : Except Fault Location := do
  checkPath p
  let loc ← fs.reach .create here p
  match fs.node? loc with
  | some .directory | some (.link _) => .error .isDirectory
  | some _ => if fs.permits loc .write then .ok loc else .error .permissionDenied
  | none =>
    if fs.node? loc.tail ≠ some .directory then .error .notFound
    else if fs.permits loc.tail .write then .ok loc
    else .error .permissionDenied

def write (fs : FileSystem) (here : Location) (p : FilePath) (content : Bytes) :
    Except Fault FileSystem := do
  let loc ← fs.target here p
  match fs.node? loc with
  | some (.file mode _) => .ok (fs.put loc (.file mode content))
  | some (.device .terminal) => .error .noDevice
  | some (.device .full) => if content.isEmpty then .ok fs else .error .noSpace
  | some (.device _) => .ok fs
  | _ => .ok (fs.put loc (.file newMode content))

end GuidedShell.FileSystem
