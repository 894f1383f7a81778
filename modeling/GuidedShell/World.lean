import GuidedShell.FileSystem.Access

/-! What a session finds around it: files, a working directory, and the variables it was started
with. -/
namespace GuidedShell

/-- Variables by name. The first entry for a name counts. -/
abbrev Vars := List (String × String)

namespace Vars

def get? (vars : Vars) (name : String) : Option String := vars.lookup name

/-- These variables, and those of `below` with other names. -/
def shadowing (vars below : Vars) : Vars :=
  vars ++ below.filter fun v => (vars.lookup v.1).isNone

end Vars

structure World where
  files : FileSystem
  /-- The directory in which relative paths start. -/
  here : Location
  vars : Vars
  /-- The home directory on record, for when the variables name none. -/
  home? : Option FilePath

namespace World

/-- Remove what stands at a place. A working directory that is removed lives on under a name that no
path can spell, so nothing is found in it, and its parent still is. -/
def remove (w : World) (loc : Location) : World :=
  { w with
    files := w.files.drop loc
    here :=
      match loc with
      | [] => w.here
      | n :: above =>
        if loc.isSuffixOf w.here then
          w.here.take (w.here.length - loc.length) ++ (n ++ [FilePath.slash]) :: above
        else w.here }

def exist (w : World) (p : FilePath) : Bool := w.files.exist w.here p

end World

end GuidedShell
