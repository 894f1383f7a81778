import GuidedShell.Proofs.Text.Capitals
import GuidedShell.Proofs.Utf8.Ascii

/-! Lower case and ASCII. The capitals of ASCII become its small letters, wherever they stand. Beyond
it there are just two characters that lower case brings into ASCII: the Kelvin sign, which becomes a
`k`, and the dotted capital, which becomes an `i` with a mark after it. -/
namespace GuidedShell

namespace Chars

open Utf8 (IsAscii)

/-- One run of capitals has all those of ASCII. -/
theorem CaseRun.first_beyond : ∀ r ∈ caseRuns, r = ⟨0x41, 0x5A, 1, 0x61⟩ ∨ 0x80 ≤ r.first := by
  decide +kernel

theorem toLower_eq_self {c : Char} (h : ¬(0x41 ≤ c.toNat ∧ c.toNat ≤ 0x5A)) : c.toLower = c := by
  refine dif_neg fun hupper => h ?_
  have hfirst : 0x41 ≤ c.toNat := UInt32.le_iff_toNat_le.1 hupper.1
  have hlast : c.toNat ≤ 0x5A := UInt32.le_iff_toNat_le.1 hupper.2
  exact ⟨hfirst, hlast⟩

theorem lowerChar_of_lt {c : Char} (h : c.toNat < 0x80) : lowerChar c = [c.toLower] := by
  by_cases hupper : 0x41 ≤ c.toNat ∧ c.toNat ≤ 0x5A
  · have hall : ∀ n < 0x5B, 0x41 ≤ n → lowerChar (Char.ofNat n) = [(Char.ofNat n).toLower] := by
      decide +kernel
    have hc := hall c.toNat (by omega) hupper.1
    rwa [Char.ofNat_toNat] at hc
  · rw [toLower_eq_self hupper]
    refine lowerChar_of_not_isCapital ?_
    rintro (rfl | ⟨r, hr, hholds⟩)
    · exact absurd h (by decide)
    · obtain ⟨hfirst, hlast, -⟩ := CaseRun.holds_iff.1 hholds
      rcases CaseRun.first_beyond r hr with rfl | hbeyond
      · exact hupper ⟨hfirst, hlast⟩
      · omega

theorem CaseRun.image_beyond : ∀ r ∈ caseRuns,
    r.last < 0x80 ∨ 0x80 ≤ r.image ∨ r.first = r.last ∧ r.image = 'k'.toNat := by
  decide +kernel

theorem lowerChar_of_le {c : Char} (h : 0x80 ≤ c.toNat) :
    lowerChar c = ['i', '\u0307'] ∨ ∃ d, lowerChar c = [d] ∧ (d = 'k' ∨ 0x80 ≤ d.toNat) := by
  unfold lowerChar
  split
  · exact .inl rfl
  · right
    split
    · rename_i r hfind
      have hr := List.mem_of_find?_eq_some hfind
      have hholds : r.holds c.toNat := by simpa using List.find?_some hfind
      obtain ⟨hfirst, hlast, -⟩ := CaseRun.holds_iff.1 hholds
      refine ⟨_, rfl, ?_⟩
      rcases CaseRun.image_beyond r hr with hascii | hbeyond | ⟨hsingle, hkelvin⟩
      · omega
      · right
        rw [CaseRun.toNat_image hr hholds]
        omega
      · left
        rw [hkelvin, (by omega : c.toNat - r.first = 0), Nat.add_zero, Char.ofNat_toNat]
    · exact ⟨c, rfl, .inr h⟩

variable {before cs : List Char} {c : Char}

theorem lowerHere_of_lt (before rest : List Char) (h : c.toNat < 0x80) :
    lowerHere before c rest = [c.toLower] := by
  rcases lowerHere_cases before c rest with ⟨rfl, -⟩ | ⟨-, hlower⟩
  · exact absurd h (by decide)
  · rw [hlower, lowerChar_of_lt h]

theorem lowerHere_of_le (before rest : List Char) (h : 0x80 ≤ c.toNat) :
    lowerHere before c rest = ['i', '\u0307'] ∨
      ∃ d, lowerHere before c rest = [d] ∧ (d = 'k' ∨ 0x80 ≤ d.toNat) := by
  rcases lowerHere_cases before c rest with ⟨-, d, hlower, hsigma⟩ | ⟨-, hlower⟩
  · refine .inr ⟨d, hlower, .inr ?_⟩
    rcases hsigma with rfl | rfl
    · decide
    · decide
  · rw [hlower]
    exact lowerChar_of_le h

theorem lowerAfter_of_isAscii (h : IsAscii cs) : lowerAfter before cs = cs.map Char.toLower := by
  induction cs generalizing before with
  | nil => rfl
  | cons c cs ih =>
    obtain ⟨hc, hcs⟩ := List.forall_mem_cons.1 h
    rw [lowerAfter_cons, lowerHere_of_lt _ _ hc, ih hcs]
    rfl

theorem toLower_of_le (h : 0x80 ≤ c.toNat) : c.toLower = c := toLower_eq_self (by omega)

theorem toNat_toLower_lt (h : c.toNat < 0x80) : c.toLower.toNat < 0x80 := by
  have hall : ∀ n < 0x80, (Char.ofNat n).toLower.toNat < 0x80 := by decide +kernel
  have hc := hall c.toNat h
  rwa [Char.ofNat_toNat] at hc

theorem isAscii_of_map_toLower (h : IsAscii (cs.map Char.toLower)) : IsAscii cs := by
  intro c hc
  have hlower : c.toLower.toNat < 0x80 := h _ (List.mem_map_of_mem hc)
  by_contra hbeyond
  rw [toLower_of_le (by omega)] at hlower
  exact hbeyond hlower

theorem lt_of_isAlphanum {c : Char} (h : c.isAlphanum) : c.toNat < 0x80 := by
  delta Char.isAlphanum Char.isAlpha Char.isUpper Char.isLower Char.isDigit at h
  simp only [Bool.or_eq_true, Bool.and_eq_true, decide_eq_true_eq, UInt32.le_iff_toNat_le,
    ge_iff_le] at h
  have hz : 'z'.val.toNat < 0x80 := by decide
  have hZ : 'Z'.val.toNat < 0x80 := by decide
  have hnine : '9'.val.toNat < 0x80 := by decide
  have hc : c.toNat = c.val.toNat := rfl
  omega

/-! A text in lower case ends in a text of ASCII just where an end of it becomes that text. -/

theorem toLower_mem_lowerAfter (before : List Char) (hc : c.toNat < 0x80) (h : c ∈ cs) :
    c.toLower ∈ lowerAfter before cs := by
  induction cs generalizing before with
  | nil => cases h
  | cons d ds ih =>
    rw [lowerAfter_cons, List.mem_append]
    rcases List.mem_cons.1 h with rfl | h
    · rw [lowerHere_of_lt _ _ hc]
      exact .inl List.mem_cons_self
    · exact .inr (ih _ h)

/-- Without a sigma it does not matter what stands before a text. -/
theorem lowerAfter_eq_of_isAscii (h : IsAscii (lowerAfter before cs)) (before' : List Char) :
    lowerAfter before' cs = lowerAfter before cs := by
  induction cs generalizing before before' with
  | nil => rfl
  | cons c cs ih =>
    rw [lowerAfter_cons] at h ⊢
    have hrest : IsAscii (lowerAfter (c :: before) cs) :=
      fun d hd => h d (List.mem_append_right _ hd)
    have hc : c ≠ 'Σ' := by
      rcases lowerHere_cases before c cs with ⟨-, d, hd, hsigma⟩ | ⟨hc, -⟩
      · have hascii : d.toNat < 0x80 := h d (by simp [hd])
        rcases hsigma with rfl | rfl
        · exact absurd hascii (by decide)
        · exact absurd hascii (by decide)
      · exact hc
    have hhere (before : List Char) : lowerHere before c cs = lowerChar c := if_neg hc
    rw [lowerAfter_cons, ih hrest, hhere, hhere]

theorem suffix_lowerAfter_iff (before cs : List Char) {m : List Char} (hm : IsAscii m) :
    m <:+ lowerAfter before cs ↔ ∃ front back, cs = front ++ back ∧ lower back = m := by
  constructor
  · intro h
    induction cs generalizing before with
    | nil => exact ⟨[], [], rfl, (List.suffix_nil.1 h).symm⟩
    | cons c cs ih =>
      have hlater (hend : m <:+ lowerAfter (c :: before) cs) :
          ∃ front back, c :: cs = front ++ back ∧ lower back = m := by
        obtain ⟨front, back, rfl, hback⟩ := ih _ hend
        exact ⟨c :: front, back, rfl, hback⟩
      have hwhole (heq : m = lowerAfter before (c :: cs)) : lower (c :: cs) = m := by
        rw [heq] at hm ⊢
        exact lowerAfter_eq_of_isAscii hm []
      have hsingle {d : Char} (hd : lowerHere before c cs = [d]) :
          ∃ front back, c :: cs = front ++ back ∧ lower back = m := by
        rw [lowerAfter_cons, hd] at h
        rcases List.suffix_cons_iff.1 h with heq | hend
        · exact ⟨[], c :: cs, rfl, hwhole (by rw [lowerAfter_cons, hd]; exact heq)⟩
        · exact hlater hend
      by_cases hc : c.toNat < 0x80
      · exact hsingle (lowerHere_of_lt _ _ hc)
      · rcases lowerHere_of_le before cs (Nat.le_of_not_lt hc) with hmarked | ⟨d, hd, -⟩
        · -- The mark is not of ASCII, so the end begins after it.
          have hmark : '\u0307' ∉ m := fun hmem => absurd (hm _ hmem) (by decide)
          rw [lowerAfter_cons, hmarked] at h
          rcases List.suffix_cons_iff.1 h with rfl | h
          · exact absurd (by simp) hmark
          · rcases List.suffix_cons_iff.1 h with rfl | h
            · exact absurd (by simp) hmark
            · exact hlater h
        · exact hsingle hd
  · rintro ⟨front, back, rfl, rfl⟩
    induction front generalizing before with
    | nil =>
      rw [List.nil_append, lowerAfter_eq_of_isAscii hm before]
      exact List.suffix_rfl
    | cons c front ih =>
      rw [List.cons_append, lowerAfter_cons]
      exact (ih _).trans (List.suffix_append _ _)

/-- A character below the small letters, at the start of a text in lower case, was there before. -/
theorem exists_cons_of_lowerAfter {m : List Char} (hzero : 0 < c.toNat) (hc : c.toNat < 0x61)
    (h : lowerAfter before cs = c :: m) :
    ∃ rest, cs = c :: rest ∧ lowerAfter (c :: before) rest = m := by
  cases cs with
  | nil => cases h
  | cons d ds =>
    rw [lowerAfter_cons] at h
    by_cases hd : d.toNat < 0x80
    · rw [lowerHere_of_lt _ _ hd] at h
      obtain ⟨hfirst, hrest⟩ := List.cons.inj h
      have hmem : c ∈ lowerChar d := by simp [lowerChar_of_lt hd, hfirst]
      obtain rfl := mem_lowerChar hzero hc hmem
      exact ⟨ds, rfl, hrest⟩
    · exfalso
      rcases lowerHere_of_le before ds (Nat.le_of_not_lt hd) with hmarked | ⟨e, he, hsmall⟩
      · rw [hmarked] at h
        obtain ⟨rfl, -⟩ := List.cons.inj h
        exact absurd hc (by decide)
      · rw [he] at h
        obtain ⟨rfl, -⟩ := List.cons.inj h
        rcases hsmall with rfl | hbeyond
        · exact absurd hc (by decide)
        · omega

/-! A text that neither of the two characters can take part in is found in lower case just where it
is found when only the capitals of ASCII are made small. -/

/-- A text of ASCII without a `k`, and without an `i` at its end. -/
structure IsPlain (m : List Char) : Prop where
  ascii : IsAscii m
  noKelvin : 'k' ∉ m
  unmarked : m.getLast? ≠ some 'i'

instance (m : List Char) : Decidable (IsPlain m) :=
  decidable_of_iff (m.all (·.toNat < 0x80) ∧ 'k' ∉ m ∧ m.getLast? ≠ some 'i')
    ⟨fun h => ⟨by simpa [IsAscii] using h.1, h.2.1, h.2.2⟩,
      fun h => ⟨by simpa [IsAscii] using h.ascii, h.noKelvin, h.unmarked⟩⟩

theorem IsPlain.tail {a : Char} {m : List Char} (h : IsPlain (a :: m)) : IsPlain m where
  ascii := (List.forall_mem_cons.1 h.ascii).2
  noKelvin := fun hmem => h.noKelvin (List.mem_cons_of_mem a hmem)
  unmarked := by
    cases m with
    | nil => exact nofun
    | cons b m => simpa using h.unmarked

theorem not_prefix_cons {m xs : List Char} (hm : m ≠ []) (hc : c ∉ m) : ¬m <+: c :: xs := by
  rintro hprefix
  obtain ⟨a, m, rfl⟩ := List.exists_cons_of_ne_nil hm
  obtain ⟨rfl, -⟩ := List.cons_prefix_cons.1 hprefix
  exact hc List.mem_cons_self

theorem infix_cons_iff_of_notMem {m xs : List Char} (hm : m ≠ []) (hc : c ∉ m) :
    m <:+: c :: xs ↔ m <:+: xs :=
  List.infix_cons_iff.trans (or_iff_right (not_prefix_cons hm hc))

namespace IsPlain

variable {m xs : List Char}

theorem notMem_of_le (h : IsPlain m) (hc : 0x80 ≤ c.toNat) : c ∉ m := fun hmem => by
  have hlt := h.ascii c hmem
  omega

/-- An `i` is not followed by its mark in such a text, and does not end it. -/
theorem not_prefix_marked (h : IsPlain m) (hm : m ≠ []) : ¬m <+: 'i' :: '\u0307' :: xs := by
  intro hprefix
  obtain ⟨a, m, rfl⟩ := List.exists_cons_of_ne_nil hm
  obtain ⟨rfl, hrest⟩ := List.cons_prefix_cons.1 hprefix
  by_cases hm : m = []
  · subst hm
    exact h.unmarked rfl
  · exact not_prefix_cons hm (h.tail.notMem_of_le (by decide)) hrest

/-- What becomes of a character beyond ASCII does not begin such a text. -/
theorem not_prefix_lowerAfter (h : IsPlain m) (hm : m ≠ []) (hc : 0x80 ≤ c.toNat) :
    ¬m <+: lowerAfter before (c :: cs) := by
  rw [lowerAfter_cons]
  rcases lowerHere_of_le before cs hc with hmarked | ⟨d, hd, rfl | hbeyond⟩
  · rw [hmarked]
    exact h.not_prefix_marked hm
  · rw [hd]
    exact not_prefix_cons hm h.noKelvin
  · rw [hd]
    exact not_prefix_cons hm (h.notMem_of_le hbeyond)

theorem prefix_lowerAfter_iff (h : IsPlain m) (before cs : List Char) :
    m <+: lowerAfter before cs ↔ m <+: cs.map Char.toLower := by
  induction cs generalizing before m with
  | nil => rfl
  | cons c cs ih =>
    cases m with
    | nil => simp
    | cons a m =>
      by_cases hc : c.toNat < 0x80
      · rw [lowerAfter_cons, lowerHere_of_lt _ _ hc, List.singleton_append, List.map_cons,
          List.cons_prefix_cons, List.cons_prefix_cons, ih h.tail]
      · have hbeyond : 0x80 ≤ c.toNat := by omega
        have hm : a :: m ≠ [] := List.cons_ne_nil a m
        rw [List.map_cons, toLower_of_le hbeyond]
        exact iff_of_false (h.not_prefix_lowerAfter hm hbeyond)
          (not_prefix_cons hm (h.notMem_of_le hbeyond))

/-- What becomes of a character beyond ASCII has no part in such a text. -/
theorem infix_lowerHere_append_iff (h : IsPlain m) (hm : m ≠ []) (hc : 0x80 ≤ c.toNat)
    (before rest : List Char) : m <:+: lowerHere before c rest ++ xs ↔ m <:+: xs := by
  rcases lowerHere_of_le before rest hc with hmarked | ⟨d, hd, rfl | hbeyond⟩
  · have hmark : '\u0307' ∉ m := h.notMem_of_le (by decide)
    rw [hmarked]
    exact List.infix_cons_iff.trans ((or_iff_right (h.not_prefix_marked hm)).trans
      (infix_cons_iff_of_notMem hm hmark))
  · rw [hd]
    exact infix_cons_iff_of_notMem hm h.noKelvin
  · rw [hd]
    exact infix_cons_iff_of_notMem hm (h.notMem_of_le hbeyond)

theorem infix_lowerAfter_iff (h : IsPlain m) (hm : m ≠ []) :
    m <:+: lowerAfter before cs ↔ m <:+: cs.map Char.toLower := by
  induction cs generalizing before with
  | nil => rfl
  | cons c cs ih =>
    by_cases hc : c.toNat < 0x80
    · have hfirst := h.prefix_lowerAfter_iff before (c :: cs)
      rw [lowerAfter_cons, lowerHere_of_lt _ _ hc, List.singleton_append, List.map_cons] at hfirst ⊢
      rw [List.infix_cons_iff, List.infix_cons_iff, hfirst, ih]
    · have hbeyond : 0x80 ≤ c.toNat := by omega
      rw [lowerAfter_cons, h.infix_lowerHere_append_iff hm hbeyond, List.map_cons,
        toLower_of_le hbeyond, infix_cons_iff_of_notMem hm (h.notMem_of_le hbeyond), ih]

end IsPlain

end Chars

end GuidedShell
