import GuidedShell.Chars.Numeral
import Mathlib.Tactic.Ring

/-! What reading a numeral gives: its value, if the range has room for it. -/
namespace GuidedShell.Chars

/-- What may stand before the digits of a numeral. -/
inductive Sign : List Char → Int → Prop
  | none : Sign [] 1
  | plus : Sign ['+'] 1
  | minus : Sign ['-'] (-1)

/-- The text is a numeral for this integer: a sign, or none, and then one or more digits. -/
inductive Spells : List Char → Int → Prop
  | intro {mark digits : List Char} {sign : Int} (hmark : Sign mark sign) (hsome : digits ≠ [])
    (hdigits : ∀ c ∈ digits, c.isDigit) :
    Spells (mark ++ digits) (sign * Nat.ofDigitChars 10 digits 0)

theorem Spells.mem {cs : List Char} {v : Int} (h : Spells cs v) {c : Char} (hc : c ∈ cs) :
    c = '+' ∨ c = '-' ∨ c.isDigit := by
  obtain ⟨hmark, -, hdigits⟩ := h
  rcases List.mem_append.1 hc with hc | hc
  · cases hmark with
    | none => cases hc
    | plus => exact .inl (List.mem_singleton.1 hc)
    | minus => exact .inr (.inl (List.mem_singleton.1 hc))
  · exact .inr (.inr (hdigits c hc))

def Bounds.Contains (range : Bounds) (v : Int) : Prop := range.low ≤ v ∧ v ≤ range.high

instance (range : Bounds) (v : Int) : Decidable (range.Contains v) :=
  inferInstanceAs (Decidable (_ ∧ _))

/-- The text starts with a numeral that is out of range. -/
def Overruns (range : Bounds) (cs : List Char) : Prop :=
  ∃ front v, front <+: cs ∧ Spells front v ∧ ¬ range.Contains v

theorem digit?_of_isDigit {c : Char} (h : c.isDigit) : digit? c = some (c.toNat - '0'.toNat) := by
  rw [Char.isDigit_iff_toNat] at h
  refine if_pos ⟨?_, ?_⟩
  · exact h.1
  · exact h.2

theorem digit?_of_not_isDigit {c : Char} (h : ¬ c.isDigit) : digit? c = none := by
  rw [Char.isDigit_iff_toNat] at h
  exact if_neg h

theorem le_ofDigitChars (n : Nat) (cs : List Char) : n ≤ Nat.ofDigitChars 10 cs n := by
  induction cs generalizing n with
  | nil => exact Nat.le_refl n
  | cons c cs ih =>
    rw [Nat.ofDigitChars_cons]
    exact (by omega : n ≤ 10 * n + (c.toNat - '0'.toNat)).trans (ih _)

/-- A range with two numbers on one side of zero has room for every number between them. -/
theorem Bounds.Contains.between {range : Bounds} {mark : List Char} {sign : Int}
    (hmark : Sign mark sign) {m n k : Nat} (hm : range.Contains (sign * m))
    (hk : range.Contains (sign * k)) (hmn : m ≤ n) (hnk : n ≤ k) : range.Contains (sign * n) := by
  unfold Bounds.Contains at *
  cases hmark <;> omega

namespace Numeral

variable {range : Bounds} {mark : List Char} {sign : Int}

/-- One digit more. -/
theorem readDigits_cons {c : Char} (hc : c.isDigit) (n : Nat) (cs : List Char) :
    let next := 10 * n + (c.toNat - '0'.toNat)
    readDigits range sign (sign * n) (c :: cs) =
      if range.Contains (sign * next) then readDigits range sign (sign * next) cs else .beyond := by
  intro next
  have hnext : sign * n * 10 + sign * (c.toNat - '0'.toNat : Nat) = sign * next := by
    push_cast [next]
    ring
  rw [readDigits, digit?_of_isDigit hc]
  dsimp only
  rw [hnext]
  rfl

theorem readDigits_of_not_isDigit {c : Char} (hc : ¬ c.isDigit) (soFar : Int) (cs : List Char) :
    readDigits range sign soFar (c :: cs) = .malformed := by
  rw [readDigits, digit?_of_not_isDigit hc]

theorem readDigits_eq_value_iff (hmark : Sign mark sign) {n : Nat}
    (hn : range.Contains (sign * n)) {cs : List Char} {v : Int} :
    readDigits range sign (sign * n) cs = .value v ↔
      (∀ c ∈ cs, c.isDigit) ∧ v = sign * Nat.ofDigitChars 10 cs n ∧ range.Contains v := by
  induction cs generalizing n with
  | nil =>
    rw [Nat.ofDigitChars_nil]
    constructor
    · intro h
      cases h
      exact ⟨by simp, rfl, hn⟩
    · rintro ⟨-, rfl, -⟩
      rfl
  | cons c cs ih =>
    by_cases hc : c.isDigit
    · rw [readDigits_cons hc, Nat.ofDigitChars_cons]
      split
      · rename_i hnext
        rw [ih hnext, List.forall_mem_cons]
        simp [hc]
      · rename_i hnext
        refine iff_of_false (by simp) ?_
        rintro ⟨-, rfl, hv⟩
        -- No further digit leads back into the range.
        exact hnext (.between hmark hn hv (by omega) (le_ofDigitChars _ cs))
    · rw [readDigits_of_not_isDigit hc]
      exact iff_of_false (by simp) fun h => hc (h.1 c List.mem_cons_self)

/-- The reading stops at the first digits that leave the range, whatever follows them. -/
theorem readDigits_eq_beyond_iff {n : Nat} (hn : range.Contains (sign * n)) {cs : List Char} :
    readDigits range sign (sign * n) cs = .beyond ↔
      ∃ front, front <+: cs ∧ (∀ c ∈ front, c.isDigit) ∧
        ¬ range.Contains (sign * Nat.ofDigitChars 10 front n) := by
  induction cs generalizing n with
  | nil =>
    refine iff_of_false (by simp [readDigits]) ?_
    rintro ⟨front, hfront, -, hout⟩
    rw [List.prefix_nil.1 hfront] at hout
    exact hout hn
  | cons c cs ih =>
    by_cases hc : c.isDigit
    · rw [readDigits_cons hc]
      split
      · rename_i hnext
        rw [ih hnext]
        constructor
        · rintro ⟨front, hfront, hdigits, hout⟩
          exact ⟨c :: front, List.cons_prefix_cons.2 ⟨rfl, hfront⟩,
            List.forall_mem_cons.2 ⟨hc, hdigits⟩, hout⟩
        · rintro ⟨front, hfront, hdigits, hout⟩
          rcases List.prefix_cons_iff.1 hfront with rfl | ⟨rest, rfl, hrest⟩
          · exact absurd hn hout
          · rw [List.forall_mem_cons] at hdigits
            exact ⟨rest, hrest, hdigits.2, hout⟩
      · rename_i hnext
        exact iff_of_true rfl ⟨[c], by simp, by simpa using hc, hnext⟩
    · rw [readDigits_of_not_isDigit hc]
      refine iff_of_false (by simp) ?_
      rintro ⟨front, hfront, hdigits, hout⟩
      rcases List.prefix_cons_iff.1 hfront with rfl | ⟨front, rfl, -⟩
      · exact hout hn
      · exact hc (hdigits c List.mem_cons_self)

theorem read_of_sign (hmark : Sign mark sign) {c : Char} (hc : c.isDigit) (cs : List Char) :
    read range (mark ++ c :: cs) = readDigits range sign (sign * (0 : Nat)) (c :: cs) := by
  cases hmark with
  | plus => rfl
  | minus => rfl
  | none =>
    have hplus : c ≠ '+' := by
      rintro rfl
      cases hc
    have hminus : c ≠ '-' := by
      rintro rfl
      cases hc
    rw [List.nil_append]
    unfold read
    split <;> simp_all

/-- Nothing but the digits after the sign decides. -/
theorem read_cases (range : Bounds) (cs : List Char) :
    read range cs = .malformed ∨ ∃ mark sign digits, Sign mark sign ∧ cs = mark ++ digits ∧
      digits ≠ [] ∧ read range cs = readDigits range sign (sign * (0 : Nat)) digits := by
  unfold read
  split
  · exact .inl rfl
  · exact .inl rfl
  · exact .inl rfl
  · rename_i ds hds
    exact .inr ⟨_, _, ds, .plus, rfl, hds, rfl⟩
  · rename_i ds hds
    exact .inr ⟨_, _, ds, .minus, rfl, hds, rfl⟩
  · rename_i hne _ _ _ _
    exact .inr ⟨_, _, cs, .none, rfl, hne, rfl⟩

theorem contains_start (hzero : range.Contains 0) : range.Contains (sign * (0 : Nat)) := by
  simpa using hzero

/-- Only a numeral has a value, which is in the range. -/
theorem read_eq_value_iff (hzero : range.Contains 0) {cs : List Char} {v : Int} :
    read range cs = .value v ↔ Spells cs v ∧ range.Contains v := by
  constructor
  · intro hread
    rcases read_cases range cs with hbad | ⟨mark, sign, digits, hmark, rfl, hsome, hdigits⟩
    · rw [hbad] at hread
      cases hread
    · rw [hdigits, readDigits_eq_value_iff hmark (contains_start hzero)] at hread
      obtain ⟨hall, rfl, hin⟩ := hread
      exact ⟨.intro hmark hsome hall, hin⟩
  · rintro ⟨⟨hmark, hsome, hall⟩, hin⟩
    obtain ⟨c, ds, rfl⟩ := List.exists_cons_of_ne_nil hsome
    rw [read_of_sign hmark (hall c List.mem_cons_self)]
    exact (readDigits_eq_value_iff hmark (contains_start hzero)).2 ⟨hall, rfl, hin⟩

theorem read_eq_beyond_iff (hzero : range.Contains 0) {cs : List Char} :
    read range cs = .beyond ↔ Overruns range cs := by
  constructor
  · intro hread
    rcases read_cases range cs with hbad | ⟨mark, sign, digits, hmark, rfl, -, hdigits⟩
    · rw [hbad] at hread
      cases hread
    · rw [hdigits, readDigits_eq_beyond_iff (contains_start hzero)] at hread
      obtain ⟨front, hfront, hall, hout⟩ := hread
      have hsome : front ≠ [] := by
        rintro rfl
        exact hout (contains_start hzero)
      exact ⟨_, _, (List.prefix_append_right_inj mark).2 hfront, .intro hmark hsome hall, hout⟩
  · rintro ⟨_, _, ⟨rest, rfl⟩, ⟨hmark, hsome, hall⟩, hout⟩
    obtain ⟨c, ds, rfl⟩ := List.exists_cons_of_ne_nil hsome
    rw [List.append_assoc, List.cons_append, read_of_sign hmark (hall c List.mem_cons_self)]
    refine (readDigits_eq_beyond_iff (contains_start hzero)).2 ⟨c :: ds, ?_, hall, hout⟩
    exact ⟨rest, rfl⟩

theorem read_eq_malformed_iff (hzero : range.Contains 0) {cs : List Char} :
    read range cs = .malformed ↔ (∀ v, ¬ Spells cs v) ∧ ¬ Overruns range cs := by
  rw [← read_eq_beyond_iff hzero]
  cases hread : read range cs with
  | value v =>
    refine iff_of_false (by simp) fun h => ?_
    exact h.1 v ((read_eq_value_iff hzero).1 hread).1
  | beyond => simp
  | malformed =>
    refine iff_of_true rfl ⟨fun v hv => ?_, by simp⟩
    by_cases hin : range.Contains v
    · rw [(read_eq_value_iff hzero).2 ⟨hv, hin⟩] at hread
      cases hread
    · rw [(read_eq_beyond_iff hzero).2 ⟨cs, v, List.prefix_refl cs, hv, hin⟩] at hread
      cases hread

end Numeral

end GuidedShell.Chars
