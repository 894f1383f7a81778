import GuidedShell.Script.Schedule

/-! The programs of a world whose only native program runs scripts. -/
namespace GuidedShell.Script

def maxNesting : Nat := 100000

def maxTurns : Nat := 10000000

/-- How many turns processes have that nobody can hear any more. -/
def afterlife : Nat := 100

/-- What there is when a program is started that nobody gives anything to read, and of which
somebody reads whatever it writes. -/
def Shared.fresh (files : FileSystem) : Shared where
  files := files
  streams := #[⟨.device .null, true, false, false, 0⟩, ⟨.pipe 0, false, true, false, 0⟩,
    ⟨.pipe 1, false, true, false, 0⟩]
  pipes := #[.empty true, .empty true]
  nextProcess := launcher + 2
  members := [⟨launcher, 0, [], none⟩, ⟨launcher + 1, launcher, [0, 1, 2], none⟩]
  newborn := []
  stopped := []
  posted := []

def Shared.written (s : Shared) (pipe : Nat) : Bytes :=
  Octets.toBytes ((s.pipes[pipe]?).map Pipe.content |>.getD [])

/-- The variables of a program in ascending order, of which the last of one name counts. -/
def initialVars (vars : Vars) : List (Octets × Octets) :=
  let pairs := vars.map fun v => (Octets.ofString v.1, Octets.ofString v.2)
  pairs.mergeSort fun a b => !b.1.isBelow a.1

def programs : Programs := fun launch files =>
  let process := launcher + 1
  let m : Machine :=
    .fresh (.fresh files) process launcher [(0, 0), (1, 1), (2, 2)] launch.directory [] 0o022 []
  let mission := Mission.program (initialVars launch.vars) (launch.words.map Octets.ofBytes)
  let first : Fellow := (process, .newborn m.toRunner mission)
  let s := Schedule.run (Step.run maxNesting) maxTurns afterlife [first] m.shared
  { ending := ((s.member? process).bind (·.ending)).getD (.exited 2)
    stdout := s.written 0
    stderr := s.written 1
    files := s.files }

end GuidedShell.Script
