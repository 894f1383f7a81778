import GuidedShell.Correction
import GuidedShell.Proofs.Text.Numeral

/-! A reply to a menu is judged by its number. The one exception is a reply that is not a number but
starts like one that is far too large. -/
namespace GuidedShell.Correction

open Chars

/-- The menu prints this name on its line with this number. -/
def Lists (c : Correction) (number : Nat) (name : String) : Prop :=
  ∃ before after, c.candidates = before ++ name :: after ∧ number = before.length + 1 ∧
    c.menu = "Command not found: '" ++ c.typo ++ "'. Did you mean:\n" ++ menuLines 1 before ++
      ("  " ++ Text.decimal number ++ ") " ++ name ++ "\n") ++ menuLines (number + 1) after ++
      "Enter a number (1-" ++ Text.decimal c.candidates.length ++ ") or 'n' to cancel: "

theorem menuLines_append (first : Nat) (before : List String) (name : String)
    (after : List String) :
    menuLines first (before ++ name :: after) =
      menuLines first before ++
        ("  " ++ Text.decimal (first + before.length) ++ ") " ++ name ++ "\n") ++
        menuLines (first + before.length + 1) after := by
  induction before generalizing first with
  | nil => simp [menuLines, String.append_assoc]
  | cons b bs ih =>
    have hfirst : first + 1 + bs.length = first + (bs.length + 1) := by omega
    rw [List.cons_append, menuLines, ih, menuLines, List.length_cons, hfirst]
    simp only [String.append_assoc]

theorem lists_of_getElem {c : Correction} {i : Nat} (h : i < c.candidates.length) :
    c.Lists (i + 1) c.candidates[i] := by
  have hsplit : c.candidates =
      c.candidates.take i ++ c.candidates[i] :: c.candidates.drop (i + 1) := by simp
  have hlength : (c.candidates.take i).length = i := List.length_take_of_le (Nat.le_of_lt h)
  have hlines := menuLines_append 1 (c.candidates.take i) c.candidates[i]
    (c.candidates.drop (i + 1))
  rw [← hsplit, hlength, Nat.add_comm 1 i] at hlines
  refine ⟨_, _, hsplit, by rw [hlength], ?_⟩
  unfold menu
  rw [hlines]
  simp only [String.append_assoc]

section Read

/-! What each reading of a reply leads to. -/

variable {c : Correction} {reply : String}

theorem resolve_of_malformed
    (hread : Numeral.read .word (Text.trim reply).toList = .malformed) :
    c.resolve reply = .error .correctionAborted := by
  unfold resolve
  dsimp only
  rw [hread]

theorem resolve_of_beyond (hread : Numeral.read .word (Text.trim reply).toList = .beyond) :
    c.resolve reply = .error (.invalidChoice (Text.trim reply) c.candidates.length) := by
  unfold resolve
  dsimp only
  rw [hread]

variable {v : Int} (hread : Numeral.read .word (Text.trim reply).toList = .value v)
include hread

theorem resolve_of_value {i : Nat} (hrow : i < c.candidates.length) (hv : v = i + 1) :
    c.resolve reply = .ok (c.candidates[i] ++ " ") := by
  have hi : v.toNat - 1 = i := by omega
  unfold resolve
  dsimp only
  rw [hread]
  dsimp only
  rw [if_neg (by omega), hi, List.getElem?_eq_getElem hrow]

theorem resolve_of_value_outside (hout : ¬ (1 ≤ v ∧ v ≤ c.candidates.length)) :
    c.resolve reply = .error (.invalidChoice (Text.trim reply) c.candidates.length) := by
  unfold resolve
  dsimp only
  rw [hread]
  dsimp only
  split
  · rfl
  · have hrow : c.candidates.length ≤ v.toNat - 1 := by omega
    rw [List.getElem?_eq_none hrow]

end Read

theorem contains_word_zero : Bounds.word.Contains 0 := by decide

/-- A number on the menu gives the name on its line, ready to be completed. Any other number, of
however many digits, is an invalid choice. What is not a number aborts the correction, if it does
not start with a number that 64 bits have no room for: then it is an invalid choice, too. -/
theorem resolve_by_number (c : Correction)
    (hmenu : c.candidates.length ≤ 0x7FFFFFFFFFFFFFFF) (reply : String) :
    let r := Text.trim reply
    let n := c.candidates.length
    (∀ v : Int, Spells r.toList v → 1 ≤ v → v ≤ n →
      ∃ name, c.Lists v.toNat name ∧ c.resolve reply = .ok (name ++ " ")) ∧
    (∀ v : Int, Spells r.toList v → ¬ (1 ≤ v ∧ v ≤ n) →
      c.resolve reply = .error (.invalidChoice r n)) ∧
    ((∀ v : Int, ¬ Spells r.toList v) → ¬ Overruns .word r.toList →
      c.resolve reply = .error .correctionAborted) ∧
    ((∀ v : Int, ¬ Spells r.toList v) → Overruns .word r.toList →
      c.resolve reply = .error (.invalidChoice r n)) := by
  intro r n
  have hbeyond (hover : Overruns .word r.toList) :
      c.resolve reply = .error (.invalidChoice r n) :=
    resolve_of_beyond ((Numeral.read_eq_beyond_iff contains_word_zero).2 hover)
  refine ⟨?_, ?_, ?_, fun _ hover => hbeyond hover⟩
  · intro v hspells hlow hhigh
    have hword : Bounds.word.Contains v := by
      constructor
      · exact (by decide : Bounds.word.low ≤ 1).trans hlow
      · exact hhigh.trans (Int.ofNat_le.2 hmenu)
    have hread := (Numeral.read_eq_value_iff contains_word_zero).2 ⟨hspells, hword⟩
    obtain ⟨i, rfl⟩ : ∃ i : Nat, v = i + 1 := ⟨v.toNat - 1, by omega⟩
    have hrow : i < c.candidates.length := by omega
    exact ⟨_, lists_of_getElem hrow, resolve_of_value hread hrow rfl⟩
  · intro v hspells hout
    by_cases hword : Bounds.word.Contains v
    · have hread := (Numeral.read_eq_value_iff contains_word_zero).2 ⟨hspells, hword⟩
      exact resolve_of_value_outside hread hout
    · exact hbeyond ⟨_, v, List.prefix_refl _, hspells, hword⟩
  · intro hnone hover
    exact resolve_of_malformed
      ((Numeral.read_eq_malformed_iff contains_word_zero).2 ⟨hnone, hover⟩)

theorem resolve_by_number_gist :
    let c : Correction := ⟨"gis", [], ["git", "gist"]⟩
    c.candidates.length ≤ 0x7FFFFFFFFFFFFFFF ∧
      (∃ name, c.Lists 2 name ∧ c.resolve " +02\t" = .ok (name ++ " ")) ∧
      c.resolve "-99999999999999999999" = .error (.invalidChoice "-99999999999999999999" 2) ∧
      c.resolve "1 2" = .error .correctionAborted := by
  intro c
  have hmenu : c.candidates.length ≤ 0x7FFFFFFFFFFFFFFF := by decide
  have htwo : Spells (Text.trim " +02\t").toList 2 :=
    .intro .plus (List.cons_ne_nil '0' ['2']) (List.all_eq_true.1 rfl)
  have hlarge : Spells (Text.trim "-99999999999999999999").toList (-99999999999999999999) :=
    .intro .minus (List.cons_ne_nil '9' (List.replicate 19 '9')) (List.all_eq_true.1 rfl)
  have hbad : Numeral.read .word (Text.trim "1 2").toList = .malformed := by decide
  obtain ⟨hnone, hover⟩ := (Numeral.read_eq_malformed_iff contains_word_zero).1 hbad
  exact ⟨hmenu, (resolve_by_number c hmenu " +02\t").1 2 htwo (by decide) (by decide),
    (resolve_by_number c hmenu "-99999999999999999999").2.1 _ hlarge (by decide),
    (resolve_by_number c hmenu "1 2").2.2.1 hnone hover⟩

/-- A letter behind too many digits does not abort the correction, as behind fewer it does. -/
theorem invalidChoice_of_letter :
    let c : Correction := ⟨"gti", [], ["git"]⟩
    (∀ v : Int, ¬ Spells (Text.trim "99999999999999999999x").toList v) ∧
      c.resolve "99999999999999999999x" = .error (.invalidChoice "99999999999999999999x" 1) ∧
      c.resolve "999999999999999999x" = .error .correctionAborted := by
  intro c
  refine ⟨fun v h => ?_, rfl, rfl⟩
  have hx : 'x' ∈ (Text.trim "99999999999999999999x").toList := by decide
  exact absurd (h.mem hx) (by decide)

end GuidedShell.Correction
