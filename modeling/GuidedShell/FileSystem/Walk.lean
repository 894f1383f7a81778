import GuidedShell.Fault
import GuidedShell.FileSystem.Basic

/-! Where a path leads. -/
namespace GuidedShell.FileSystem

def maxName : Nat := 255

/-- The length, in bytes, that a path handed to the system has to stay below. -/
def maxPath : Nat := 4096

def maxLinks : Nat := 40

/-- The place to start from when the working directory is `here`. -/
def origin (here : Location) (p : FilePath) : Location :=
  if FilePath.isAbsolute p then [] else here

/-- What a path is followed for. -/
inductive Purpose where
  /-- To find what is there. -/
  | look
  /-- To put a file there. A path that ends in a slash is refused, for it asks for a directory. -/
  | create
  deriving DecidableEq

/-- Take the steps one by one. `enter` goes on where a link has been met, with the place to go on
from and the steps to take from there. Only the last step may lead to a place that is empty. A
directory has to be open to a search for any step but a slash at its end. -/
def walkWith (fs : FileSystem) (purpose : Purpose)
    (enter : Location → List FileName → Except Fault Location) :
    Location → List FileName → Except Fault Location
  | here, [] => .ok here
  | here, s :: rest =>
    match fs.node? here with
    | some (.file ..) | some (.device _) => .error .notDirectory
    | _ =>
      if s = FilePath.stay then walkWith fs purpose enter here rest
      else if !fs.permits here .execute then .error .permissionDenied
      else if s = FilePath.here then walkWith fs purpose enter here rest
      else if s = FilePath.parent then walkWith fs purpose enter here.tail rest
      else if purpose = .create ∧ rest = [FilePath.stay] then .error .isDirectory
      else if maxName < s.length then .error .nameTooLong
      else match fs.node? (s :: here) with
        | some (.link target) => enter (origin here target) (FilePath.steps target ++ rest)
        | some _ => walkWith fs purpose enter (s :: here) rest
        | none => if rest.isEmpty then .ok (s :: here) else .error .notFound

/-- Take the steps, following at most `links` symbolic links. -/
def walk (fs : FileSystem) (purpose : Purpose) :
    (links : Nat) → Location → List FileName → Except Fault Location
  | 0 => walkWith fs purpose fun _ _ => .error .tooManyLinks
  | links + 1 => walkWith fs purpose (walk fs purpose links)

/-- The place a path leads to, whether there is something or not. -/
def reach (fs : FileSystem) (purpose : Purpose) (here : Location) (p : FilePath) :
    Except Fault Location :=
  if p.isEmpty then .error .notFound
  else fs.walk purpose maxLinks (origin here p) (FilePath.steps p)

def canonical (fs : FileSystem) (here : Location) (p : FilePath) : Except Fault Location :=
  if p.contains 0 then .error .zeroInName
  else do
    let loc ← fs.reach .look here p
    if (fs.node? loc).isSome then .ok loc else .error .notFound

/-- The canonical place that a path names, as far as it has an absolute path. A relative path has
none when the working directory is gone. -/
def absolute (fs : FileSystem) (here : Location) (p : FilePath) : Except Fault Location :=
  if p.contains 0 then .error .zeroInName
  else if !FilePath.isAbsolute p && (fs.node? here).isNone then .error .notFound
  else fs.canonical here p

/-- A path as the system takes it: not too long, and without a zero byte. -/
def checkPath (p : FilePath) : Except Fault Unit :=
  if p.contains 0 then .error .zeroInName
  else if maxPath ≤ p.length then .error .nameTooLong
  else .ok ()

/-- The place that a path names when it is handed to the system. -/
def find (fs : FileSystem) (here : Location) (p : FilePath) : Except Fault Location := do
  checkPath p
  fs.canonical here p

/-- The place that a path names when a link with its last name is not followed. Nothing need be
there. -/
def findEntry (fs : FileSystem) (here : Location) (p : FilePath) : Except Fault Location := do
  checkPath p
  match (FilePath.steps p).reverse with
  | [] => .error .notFound
  | last :: front =>
    if [FilePath.stay, FilePath.here, FilePath.parent].contains last then fs.canonical here p
    else return last :: (← fs.walk .look maxLinks (origin here p) front.reverse)

end GuidedShell.FileSystem
