import GuidedShell.FileSystem.Access

/-! Setting up a tree. Paths are taken as they are written, and what stands in the way is kept. -/
namespace GuidedShell.FileSystem

/-- The place of the last name of a path. A link there is not followed. -/
def entry? (fs : FileSystem) (here : Location) (p : FilePath) : Option Location :=
  match (FilePath.steps p).reverse.dropWhile fun s => s == FilePath.stay || s == FilePath.here with
  | [] => none
  | last :: front =>
    match fs.walk .look maxLinks (origin here p) front.reverse with
    | .ok dir => if last = FilePath.parent then some dir.tail else some (last :: dir)
    | .error _ => none

/-- Create the directories on the way from `here` that are missing. -/
def makeWay (fs : FileSystem) (here : Location) : List FileName → FileSystem × Location
  | [] => (fs, here)
  | s :: rest =>
    match fs.walk .look maxLinks here [s] with
    | .error _ => (fs, here)
    | .ok loc =>
      let fs := if (fs.node? loc).isNone then fs.put loc .directory else fs
      fs.makeWay loc rest

def makeDirectories (fs : FileSystem) (here : Location) (p : FilePath) : FileSystem :=
  (fs.makeWay (origin here p) (FilePath.steps p)).1

/-- Put a node at a path and the missing directories above it. -/
def place (fs : FileSystem) (here : Location) (p : FilePath) (node : Node) : FileSystem :=
  match (FilePath.steps p).reverse with
  | [] => fs
  | last :: front =>
    let (fs, dir) := fs.makeWay (origin here p) front.reverse
    match node with
    | .link _ => fs.put (last :: dir) node
    | _ =>
      match fs.walk .look maxLinks dir [last] with
      | .ok loc => fs.put loc node
      | .error _ => fs

/-- What every system has besides programs: some directories, links and devices. -/
def system : FileSystem :=
  let directories := ["/boot", "/dev", "/etc", "/home", "/media", "/mnt", "/opt", "/proc/self/fd",
    "/root", "/run", "/srv", "/sys", "/tmp", "/usr/bin", "/usr/lib", "/usr/local/bin", "/usr/sbin",
    "/usr/share", "/var/tmp"]
  let links := [("/bin", "usr/bin"), ("/lib", "usr/lib"), ("/sbin", "usr/sbin"),
    ("/dev/fd", "/proc/self/fd"), ("/dev/stdin", "/proc/self/fd/0"),
    ("/dev/stdout", "/proc/self/fd/1"), ("/dev/stderr", "/proc/self/fd/2")]
  let devices := [("/dev/null", Device.null), ("/dev/zero", .zero), ("/dev/full", .full),
    ("/dev/tty", .terminal)]
  let fs := directories.foldl (fun fs p => fs.makeDirectories [] (Text.bytes p)) .empty
  let fs := links.foldl (fun fs l => fs.place [] (Text.bytes l.1) (.link (Text.bytes l.2))) fs
  devices.foldl (fun fs d => fs.place [] (Text.bytes d.1) (.device d.2)) fs

end GuidedShell.FileSystem
