import GuidedShell.Script.Stream

/-! The state of a process that carries out a script, and what it shares with others. -/
namespace GuidedShell.Script

/-- A part of the script that other processes carry out. -/
structure Job where
  /-- The processes, and how those have ended of which the script knows it. -/
  processes : List (Nat × Option Ending)
  /-- Somebody has waited for it. -/
  awaited : Bool

namespace Job

def isDone (j : Job) : Bool := j.processes.all (·.2.isSome)

/-- How the last process has ended, if all have. -/
def ending? (j : Job) : Option Ending :=
  if j.isDone then j.processes.getLast?.bind (·.2) else none

def leader (j : Job) : Nat := (j.processes.head?.map (·.1)).getD 0

def note (j : Job) (process : Nat) (e : Ending) : Job :=
  { j with processes := j.processes.map fun (p, before) =>
      (p, if p = process then some e else before) }

end Job

structure Machine extends Runner where
  shared : Shared
  jobs : List (Option Job)

namespace Machine

/-- The search path of a script that has been given none. -/
def defaultSearch : Octets :=
  "/usr/local/sbin:/usr/local/bin:/usr/sbin:/usr/bin:/sbin:/bin".toList

/-- The characters that separate words unless the script says otherwise. -/
def gaps : Octets := [' ', '\t', '\n']

/-- The variables that every script has, and their values unless it is given others. -/
def standard : List (Octets × Variable) :=
  let fixed (name : String) (value? : Option Octets) : Octets × Variable :=
    (name.toList, ⟨value?, false, false, true⟩)
  [fixed "ATTY" none, fixed "IFS" (some gaps), fixed "MAIL" none, fixed "MAILPATH" none,
    fixed "PATH" (some defaultSearch), fixed "PS1" (some "# ".toList),
    fixed "PS2" (some "> ".toList), fixed "PS4" (some "+ ".toList),
    fixed "OPTIND" (some ['1']), fixed "TERM" none, fixed "HISTSIZE" none]

def fresh (shared : Shared) (process parent : Nat) (descriptors : List (Nat × Nat))
    (here : Location) (deaf : List Nat) (mask : Nat) (limits : Limits) : Machine where
  shared := shared
  process := process
  scriptProcess := process
  parent := parent
  name := []
  args := []
  optionIndex := 1
  optionOffset := none
  vars := standard
  frames := []
  functions := []
  aliases := []
  found := []
  documents := []
  issued := 0
  settings := []
  loops := 0
  depth := 0
  line := 0
  inputLine := 1
  title := none
  status := 0
  kept := none
  outputStatus := 0
  here := here
  logical := []
  traps := []
  deaf := deaf
  patient := false
  waiting := false
  interrupted := false
  pending := []
  alarm := none
  tracing := false
  descriptors := descriptors
  spare := []
  buffer := []
  lastBackground := none
  mask := mask
  limits := limits
  rounds := 0
  jobs := []

/-- What another process has that this one starts for a part of the script. Orders for signals do
not come with it, except the order not to notice them. -/
def child (m : Machine) (process : Nat) : Runner :=
  { m.toRunner with
    process
    traps := m.traps.filter (·.2.isEmpty)
    patient := m.patient && ((m.traps.lookup Signals.interrupt).all (·.isEmpty))
    waiting := false
    interrupted := false
    pending := []
    alarm := none
    buffer := []
    rounds := 0 }

def files (m : Machine) : FileSystem := m.shared.files

def isOn (m : Machine) (s : Setting) : Bool := m.settings.isOn s

def var? (m : Machine) (name : Octets) : Option Variable := m.vars.lookup name

def value? (m : Machine) (name : Octets) : Option Octets := (m.var? name).bind (·.value?)

def value (m : Machine) (name : String) : Octets := (m.value? name.toList).getD []

def putVariable (m : Machine) (name : Octets) (v : Variable) : Machine :=
  { m with vars := (name, v) :: m.vars.filter (·.1 != name) }

def dropVariable (m : Machine) (name : Octets) : Machine :=
  { m with vars := m.vars.filter (·.1 != name) }

def separators (m : Machine) : Octets := (m.value? "IFS".toList).getD gaps

def environment (m : Machine) : List (Octets × Octets) :=
  m.vars.filterMap fun (name, v) => if v.exported then v.value?.map (name, ·) else none

/-- The script has orders for signals or for its end. -/
def hasTraps (m : Machine) : Bool := m.traps.any (!·.2.isEmpty)

/-- A path of the script as the system takes it. -/
def path (cs : Octets) : FilePath := Octets.toBytes cs

def stat? (m : Machine) (p : Octets) : Option Node := (m.files.stat m.here (path p)).toOption

def stream? (m : Machine) (descriptor : Nat) : Option Nat := m.descriptors.lookup descriptor

def putStream (m : Machine) (descriptor stream : Nat) : Machine :=
  { m with descriptors := (descriptor, stream) :: m.descriptors.filter (·.1 != descriptor) }

def closeDescriptor (m : Machine) (descriptor : Nat) : Machine :=
  { m with descriptors := m.descriptors.filter (·.1 != descriptor) }

/-- Make room for one more job. The first job that somebody has waited for gives up its place. -/
def claimJob (m : Machine) : Machine × Nat :=
  let isFree (j : Option Job) : Bool := j.all fun j => j.awaited && j.isDone
  match m.jobs.findIdx? isFree with
  | some n => ({ m with jobs := m.jobs.set n none }, n)
  | none => ({ m with jobs := m.jobs ++ [none] }, m.jobs.length)

def putJob (m : Machine) (n : Nat) (j : Option Job) : Machine := { m with jobs := m.jobs.set n j }

/-- The jobs and their places, last one first. -/
def latestJobs (m : Machine) : List (Nat × Job) :=
  let jobs := m.jobs.zipIdx.filterMap fun (j, n) => j.map (n, ·)
  jobs.mergeSort fun a b => b.2.leader ≤ a.2.leader

end Machine

end GuidedShell.Script
