import GuidedShell.Correction
import GuidedShell.Strict.Table
import GuidedShell.Suggestions
import GuidedShell.Terminal.Hint

/-! Ranking, replies, moves through the suggestions and the hint, in strict arithmetic. -/
namespace GuidedShell.Strict

def rank? (typo : String) (known : List String) : Option (List String) := do
  let scored ← known.mapM fun name => do
    return (← distance? typo.toList name.toList, name)
  let near := Correction.nearestFirst (scored.filter (·.1 < Correction.maxDistance))
  return near.take Correction.maxCandidates |>.map (·.2)

/-- The menu to offer, if ranking has found any name. -/
def offer? (typo : String) (args known : List String) : Option (Option Correction) := do
  match ← rank? typo known with
  | [] => return none
  | candidates => return some { typo, args, candidates }

def resolve? (c : Correction) (reply : String) : Option (Except Failure String) :=
  let reply := Text.trim reply
  let max := c.candidates.length
  let invalid := Except.error (.invalidChoice reply max)
  match Chars.Numeral.read .word reply.toList with
  | .malformed => some (.error .correctionAborted)
  | .beyond => some invalid
  | .value v =>
    if 1 ≤ v ∧ v ≤ max then do
      let name ← c.candidates[← difference? v.toNat 1]?
      return .ok (name ++ " ")
    else some invalid

/-- The next of `n` rows. -/
def row? (n : Nat) : Option Nat → Suggestions.Move → Option Nat
  | none, .forward => some 0
  | none, .backward => difference? n 1
  | some i, .forward => remainder? (i + 1) n
  | some i, .backward => do remainder? (← difference? (i + n) 1) n

def move? (g : Suggestions) (m : Suggestions.Move) : Option Suggestions :=
  let n := g.shown.length
  if n = 0 then some g
  else (row? n g.selected m).map fun next => { g with selected := some next }

def hint? (names : List String) (selected : Option Nat) : Option String := do
  let shown := Terminal.window names selected
  let hidden ← difference? names.length shown.length
  let rest := if 0 < hidden then ["(+" ++ Text.decimal hidden ++ ")"] else []
  return "   " ++ Text.join "  " (shown ++ rest)

end GuidedShell.Strict
