import GuidedShell.EditDistance
import GuidedShell.Failure

/-! What to offer for a command that cannot be found: the nearest known names, as a menu. -/
namespace GuidedShell

namespace Correction

/-- Names this far from what was typed, or further, are never offered. -/
def maxDistance : Nat := 3

def maxCandidates : Nat := 3

/-- Put a pair before the first one with a greater first component. -/
def insertNear (p : Nat × String) : List (Nat × String) → List (Nat × String)
  | [] => [p]
  | q :: qs => if p.1 < q.1 then p :: q :: qs else q :: insertNear p qs

/-- Nearest first. Names at the same distance keep their order. -/
def nearestFirst (scored : List (Nat × String)) : List (Nat × String) :=
  scored.foldl (fun sorted p => insertNear p sorted) []

def distance (typo name : String) : Nat := EditDistance.distance typo.toList name.toList

/-- The nearest names, at most `maxCandidates` of them. -/
def rank (typo : String) (known : List String) : List String :=
  let scored := known.map fun name => (distance typo name, name)
  (nearestFirst (scored.filter (·.1 < maxDistance))).take maxCandidates |>.map (·.2)

end Correction

/-- A menu of corrections that waits for a reply. -/
structure Correction where
  typo : String
  args : List String
  candidates : List String

namespace Correction

/-- The menu for a command that was not found, if any name is near enough. -/
def offer? (typo : String) (args known : List String) : Option Correction :=
  match rank typo known with
  | [] => none
  | candidates => some { typo, args, candidates }

def menuLines (first : Nat) : List String → String
  | [] => ""
  | name :: names =>
    "  " ++ Text.decimal first ++ ") " ++ name ++ "\n" ++ menuLines (first + 1) names

def menu (c : Correction) : String :=
  "Command not found: '" ++ c.typo ++ "'. Did you mean:\n" ++ menuLines 1 c.candidates ++
    "Enter a number (1-" ++ Text.decimal c.candidates.length ++ ") or 'n' to cancel: "

/-- The text to put into the input for a reply: the name with that number and a space. -/
def resolve (c : Correction) (reply : String) : Except Failure String :=
  let reply := Text.trim reply
  let invalid := Except.error (.invalidChoice reply c.candidates.length)
  match Chars.Numeral.read .word reply.toList with
  | .malformed => .error .correctionAborted
  | .beyond => invalid
  | .value v =>
    if v < 1 then invalid
    else match c.candidates[v.toNat - 1]? with
      | some name => .ok (name ++ " ")
      | none => invalid

end Correction

end GuidedShell
