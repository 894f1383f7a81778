import GuidedShell.Script.Octets

/-! How much of everything a process may use. -/
namespace GuidedShell.Script

/-- Something of which a process may use only so much. -/
structure Resource where
  letter : Char
  title : String
  /-- What the numbers count that scripts read and write. -/
  unit : Nat
  /-- How much a process may use, and how much it may allow itself, unless it is told otherwise. -/
  soft : Nat
  hard : Nat

namespace Limits

def unlimited : Nat := 0xFFFFFFFFFFFFFFFF

def resources : List Resource :=
  [⟨'t', "time(seconds)", 1, unlimited, unlimited⟩,
    ⟨'f', "file(blocks)", 512, unlimited, unlimited⟩,
    ⟨'d', "data(kbytes)", 1024, unlimited, unlimited⟩,
    ⟨'s', "stack(kbytes)", 1024, 8388608, unlimited⟩,
    ⟨'c', "coredump(blocks)", 512, 0, unlimited⟩,
    ⟨'m', "memory(kbytes)", 1024, unlimited, unlimited⟩,
    ⟨'l', "locked memory(kbytes)", 1024, 8388608, 8388608⟩,
    ⟨'p', "process", 1, 128604, 128604⟩,
    ⟨'n', "nofiles", 1, 20000, 20000⟩,
    ⟨'v', "vmemory(kbytes)", 1024, unlimited, unlimited⟩,
    ⟨'w', "locks", 1, unlimited, unlimited⟩,
    ⟨'r', "rtprio", 1, 0, 0⟩]

end Limits

/-- The limits that have been set, each with the letter of its resource. -/
abbrev Limits := List (Char × Nat × Nat)

namespace Limits

/-- How much of a resource may be used, and how much may be allowed. -/
def of (limits : Limits) (r : Resource) : Nat × Nat :=
  (limits.lookup r.letter).getD (r.soft, r.hard)

def set (limits : Limits) (letter : Char) (soft hard : Nat) : Limits :=
  (letter, soft, hard) :: limits.filter (·.1 != letter)

/-- How many bytes of a file may be written, if that is limited. -/
def fileSize? (limits : Limits) : Option Nat :=
  (limits.lookup 'f').map (·.1) |>.filter (· != unlimited)

/-- A limit as scripts read it. -/
def text (r : Resource) (n : Nat) : Octets :=
  if n = unlimited then "unlimited".toList else Nat.toDigits 10 (n / r.unit)

/-- The limit that a word asks for. -/
def parse? (r : Resource) (w : Octets) : Option Nat :=
  if w = "unlimited".toList then some unlimited
  else if w.all Char.isDigit then
    some (w.foldl (fun n c => n * 10 + (c.toNat - '0'.toNat)) 0 * r.unit % (unlimited + 1))
  else none

end Limits

end GuidedShell.Script
