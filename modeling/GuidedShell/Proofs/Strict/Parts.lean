import GuidedShell.Proofs.Correction.Reply
import GuidedShell.Proofs.EditDistance.Table
import GuidedShell.Strict.Parts

/-! The arithmetic of ranking, of replies, of moves and of the hint always has a result. -/
namespace GuidedShell

namespace Terminal

theorem length_mark (selected : Option Nat) (position : Nat) (names : List String) :
    (mark selected position names).length = names.length := by
  induction names generalizing position with
  | nil => rfl
  | cons n ns ih => simp [mark, ih]

theorem length_window_le (names : List String) (selected : Option Nat) :
    (window names selected).length ≤ names.length := by
  unfold window
  rw [length_mark, List.length_take, List.length_drop]
  omega

end Terminal

namespace Strict

theorem difference?_of_le {m n : Nat} (h : n ≤ m) : difference? m n = some (m - n) := if_pos h

theorem remainder?_of_ne_zero {m n : Nat} (h : n ≠ 0) : remainder? m n = some (m % n) := if_neg h

theorem rank?_eq_some (typo : String) (known : List String) :
    rank? typo known = some (Correction.rank typo known) := by
  have hscored : (known.mapM fun name => do
      return (← distance? typo.toList name.toList, name)) =
        some (known.map fun name => (Correction.distance typo name, name)) := by
    simp only [distance?_eq_some, Option.bind_eq_bind, Option.bind_some]
    exact List.mapM_pure
  unfold rank?
  rw [hscored]
  rfl

theorem offer?_eq_some (typo : String) (args known : List String) :
    offer? typo args known = some (Correction.offer? typo args known) := by
  unfold offer? Correction.offer?
  rw [rank?_eq_some]
  cases Correction.rank typo known with
  | nil => rfl
  | cons name names => rfl

theorem resolve?_eq_some (c : Correction) (reply : String) :
    resolve? c reply = some (c.resolve reply) := by
  unfold resolve?
  dsimp only
  cases hread : Chars.Numeral.read .word (Text.trim reply).toList with
  | malformed => rw [Correction.resolve_of_malformed hread]
  | beyond => rw [Correction.resolve_of_beyond hread]
  | value v =>
    dsimp only
    split
    · have hrow : v.toNat - 1 < c.candidates.length := by omega
      rw [Correction.resolve_of_value hread hrow (by omega), difference?_of_le (by omega)]
      simp [List.getElem?_eq_getElem hrow]
    · rename_i hout
      rw [Correction.resolve_of_value_outside hread hout]

theorem move?_eq_some (g : Suggestions) (m : Suggestions.Move) : move? g m = some (g.move m) := by
  unfold move? Suggestions.move
  dsimp only
  split
  · rfl
  · rename_i hn
    have hfirst : 1 ≤ g.shown.length := Nat.pos_of_ne_zero hn
    suffices hrow : row? g.shown.length g.selected m = some _ from congrArg (Option.map _) hrow
    cases g.selected with
    | none =>
      cases m with
      | forward => rfl
      | backward => exact difference?_of_le hfirst
    | some i =>
      cases m with
      | forward => exact remainder?_of_ne_zero hn
      | backward =>
        calc row? g.shown.length (some i) .backward
            = (difference? (i + g.shown.length) 1).bind (remainder? · g.shown.length) := rfl
          _ = remainder? (i + g.shown.length - 1) g.shown.length := by
            rw [difference?_of_le (Nat.le_add_left_of_le hfirst), Option.bind_some]
          _ = some ((i + g.shown.length - 1) % g.shown.length) := remainder?_of_ne_zero hn

/-- An empty list is set apart because there is no next row in it. -/
example : row? 0 none .backward = none ∧ row? 0 (some 0) .forward = none := ⟨rfl, rfl⟩

theorem hint?_eq_some (names : List String) (selected : Option Nat) :
    hint? names selected = some (Terminal.hint names selected) := by
  unfold hint?
  dsimp only
  rw [difference?_of_le (Terminal.length_window_le names selected)]
  rfl

end Strict

end GuidedShell
