import GuidedShell.Script.Numeral

/-! The signals that processes send each other. -/
namespace GuidedShell.Script.Signals

/-- One more than the greatest signal. -/
def count : Nat := 65

/-- The names of the first signals. What is called `EXIT` is no signal, but the end of a process. -/
def firstNames : List String :=
  ["EXIT", "HUP", "INT", "QUIT", "ILL", "TRAP", "ABRT", "BUS", "FPE", "KILL", "USR1", "SEGV",
    "USR2", "PIPE", "ALRM", "TERM", "16", "CHLD", "CONT", "STOP", "TSTP", "TTIN", "TTOU", "URG",
    "XCPU", "XFSZ", "VTALRM", "PROF", "WINCH", "IO", "PWR", "SYS", "32", "33"]

def name (s : Nat) : Octets :=
  if s < 34 then ((firstNames[s]?).getD "").toList
  else if s = 34 then "RTMIN".toList
  else if s < 50 then "RTMIN+".toList ++ decimal (s - 34)
  else if s < 64 then "RTMAX-".toList ++ decimal (64 - s)
  else "RTMAX".toList

def ofNumber? (cs : Octets) : Option Nat :=
  (Numeral.ofDigits? cs).filter (· < count)

/-- The signal that a number or a name means. Names count from `start` on, in any case. -/
def parse? (start : Nat) (cs : Octets) : Option Nat :=
  ofNumber? cs <|>
    ((List.range count).drop start).find? fun s =>
      (name s).map Char.toLower == cs.map Char.toLower

/-- The user wishes that the process ends. -/
def interrupt : Nat := 2

/-- A process without orders for the signal does not notice it. -/
def isHarmless (s : Nat) : Bool := [17, 18, 23, 28].contains s

/-- A process can have no orders for the signal. -/
def isAbsolute (s : Nat) : Bool := s == 9 || s == 19

def describe (s : Nat) : Octets :=
  let said := match s with
    | 1 => "Hangup"
    | 2 => "Interrupt"
    | 3 => "Quit"
    | 4 => "Illegal instruction"
    | 5 => "Trace/breakpoint trap"
    | 6 => "Aborted"
    | 7 => "Bus error"
    | 8 => "Floating point exception"
    | 9 => "Killed"
    | 10 => "User defined signal 1"
    | 11 => "Segmentation fault"
    | 12 => "User defined signal 2"
    | 13 => "Broken pipe"
    | 14 => "Alarm clock"
    | 15 => "Terminated"
    | 16 => "Stack fault"
    | 24 => "CPU time limit exceeded"
    | 25 => "File size limit exceeded"
    | 26 => "Virtual timer expired"
    | 27 => "Profiling timer expired"
    | 29 => "I/O possible"
    | 30 => "Power failure"
    | 31 => "Bad system call"
    | s => if s < 34 then "" else "Real-time signal " ++ String.ofList (decimal (s - 34))
  said.toList

/-- What is said of a process that a signal has ended, if anything. -/
def obituary (s : Nat) : Octets :=
  if s = 2 || s = 13 || (describe s).isEmpty then [] else describe s ++ ['\n']

end GuidedShell.Script.Signals
