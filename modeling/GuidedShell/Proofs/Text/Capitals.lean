import GuidedShell.Proofs.Text.Lower

/-! Lower case leaves no capitals, and changes nothing else. So a text in lower case stays as it
is. -/
namespace GuidedShell

namespace Chars

/-- The lower case of a character where it stands, between what comes before it, nearest character
first, and the rest of the text. -/
def lowerHere (before : List Char) (c : Char) (rest : List Char) : List Char :=
  if c = 'Σ' then if reachesCased before && !reachesCased rest then ['ς'] else ['σ']
  else lowerChar c

theorem lowerAfter_cons (before : List Char) (c : Char) (cs : List Char) :
    lowerAfter before (c :: cs) = lowerHere before c cs ++ lowerAfter (c :: before) cs := rfl

/-- Only a sigma depends on where it stands. -/
theorem lowerHere_cases (before : List Char) (c : Char) (rest : List Char) :
    c = 'Σ' ∧ (∃ d, lowerHere before c rest = [d] ∧ (d = 'ς' ∨ d = 'σ')) ∨
      c ≠ 'Σ' ∧ lowerHere before c rest = lowerChar c := by
  unfold lowerHere
  by_cases hc : c = 'Σ'
  · rw [if_pos hc]
    refine .inl ⟨hc, ?_⟩
    split
    · exact ⟨'ς', rfl, .inl rfl⟩
    · exact ⟨'σ', rfl, .inr rfl⟩
  · rw [if_neg hc]
    exact .inr ⟨hc, rfl⟩

/-- A character that lower case changes. -/
def IsCapital (c : Char) : Prop := c = '\u0130' ∨ ∃ r ∈ caseRuns, r.holds c.toNat

instance (c : Char) : Decidable (IsCapital c) :=
  inferInstanceAs (Decidable (c = '\u0130' ∨ ∃ r ∈ caseRuns, r.holds c.toNat))

theorem lowerChar_of_not_isCapital {c : Char} (h : ¬IsCapital c) : lowerChar c = [c] := by
  obtain ⟨hdotted, hruns⟩ := not_or.1 h
  have hnone : caseRuns.find? (·.holds c.toNat) = none :=
    List.find?_eq_none.2 fun r hr hholds => hruns ⟨r, hr, hholds⟩
  unfold lowerChar
  rw [if_neg hdotted, hnone]

theorem lowerAfter_of_forall {before cs : List Char} (h : ∀ c ∈ cs, ¬IsCapital c) :
    lowerAfter before cs = cs := by
  induction cs generalizing before with
  | nil => rfl
  | cons c cs ih =>
    obtain ⟨hc, hcs⟩ := List.forall_mem_cons.1 h
    have hhere : lowerHere before c cs = [c] := by
      rcases lowerHere_cases before c cs with ⟨rfl, -⟩ | ⟨-, hlower⟩
      · exact absurd (by decide +kernel) hc
      · rw [hlower, lowerChar_of_not_isCapital hc]
    rw [lowerAfter_cons, hhere, ih hcs, List.singleton_append]

/-! No small letter of the table is a capital of it. -/

namespace CaseRun

/-- Every code point that the small letters of a run have is that of a character. -/
theorem isValidChar_image : ∀ r ∈ caseRuns,
    r.image + (r.last - r.first) < 0xD800 ∨
      0xDFFF < r.image ∧ r.image + (r.last - r.first) < 0x110000 := by
  decide +kernel

theorem image_ne_dotted : ∀ r ∈ caseRuns,
    r.image + (r.last - r.first) < 0x0130 ∨ 0x0130 < r.image := by
  decide +kernel

variable {r s : CaseRun} {code : Nat}

theorem holds_iff : r.holds code ↔
    r.first ≤ code ∧ code ≤ r.last ∧ (code - r.first) % r.step = 0 := by
  simp [CaseRun.holds, and_assoc]

/-- The small letters of one run lie before the capitals of another, after them, or between them. -/
def apart (r s : CaseRun) : Bool :=
  (r.image + (r.last - r.first)).blt s.first || s.last.blt r.image ||
    s.step == 2 && (r.step == 2 || r.first == r.last) && (r.image + s.first) % 2 == 1

theorem all_apart : caseRuns.all fun r => caseRuns.all r.apart := by
  decide +kernel

theorem not_holds_of_apart (h : r.apart s) (hr : r.holds code) :
    ¬s.holds (r.image + (code - r.first)) := by
  obtain ⟨hfirst, hlast, hstep⟩ := holds_iff.1 hr
  rw [holds_iff]
  rintro ⟨hfirst', hlast', hstep'⟩
  simp only [apart, Bool.or_eq_true, Bool.and_eq_true, Nat.blt_eq, beq_iff_eq] at h
  rcases h with (hbefore | hafter) | ⟨⟨htwo, heven⟩, hodd⟩
  · omega
  · omega
  · rw [htwo] at hstep'
    rcases heven with heven | hsingle
    · rw [heven] at hstep
      omega
    · omega

theorem not_holds_image (hr : r ∈ caseRuns) (hs : s ∈ caseRuns) (hcode : r.holds code) :
    ¬s.holds (r.image + (code - r.first)) :=
  not_holds_of_apart (List.all_eq_true.1 (List.all_eq_true.1 all_apart r hr) s hs) hcode

theorem toNat_image (hr : r ∈ caseRuns) (hcode : r.holds code) :
    (Char.ofNat (r.image + (code - r.first))).toNat = r.image + (code - r.first) := by
  have hvalid := isValidChar_image r hr
  obtain ⟨hfirst, hlast, -⟩ := holds_iff.1 hcode
  exact Utf8.toNat_ofNat_of_valid (by omega)

end CaseRun

theorem not_isCapital_of_mem_lowerChar {c d : Char} (h : c ∈ lowerChar d) : ¬IsCapital c := by
  unfold lowerChar at h
  split at h
  · rcases List.mem_cons.1 h with rfl | h
    · decide +kernel
    · rw [List.mem_singleton.1 h]
      decide +kernel
  · rename_i hdotted
    split at h
    · rename_i r hfind
      have hr := List.mem_of_find?_eq_some hfind
      have hholds : r.holds d.toNat := by simpa using List.find?_some hfind
      have hnumber := CaseRun.toNat_image hr hholds
      rw [← List.mem_singleton.1 h] at hnumber
      rintro (rfl | ⟨s, hs, hcapital⟩)
      · have hne := CaseRun.image_ne_dotted r hr
        obtain ⟨hfirst, hlast, -⟩ := CaseRun.holds_iff.1 hholds
        change 0x0130 = _ at hnumber
        omega
      · rw [hnumber] at hcapital
        exact CaseRun.not_holds_image hr hs hholds hcapital
    · rename_i hfind
      rw [List.mem_singleton.1 h]
      rintro (hd | ⟨r, hr, hholds⟩)
      · exact hdotted hd
      · exact List.find?_eq_none.1 hfind r hr hholds

theorem not_isCapital_of_mem_lowerAfter {before cs : List Char} {c : Char}
    (h : c ∈ lowerAfter before cs) : ¬IsCapital c := by
  induction cs generalizing before with
  | nil => cases h
  | cons d ds ih =>
    rw [lowerAfter_cons] at h
    rcases List.mem_append.1 h with h | h
    · rcases lowerHere_cases before d ds with ⟨-, e, hlower, hsigma⟩ | ⟨-, hlower⟩
      · rw [hlower] at h
        rw [List.mem_singleton.1 h]
        rcases hsigma with rfl | rfl
        · decide +kernel
        · decide +kernel
      · rw [hlower] at h
        exact not_isCapital_of_mem_lowerChar h
    · exact ih h

theorem lower_lower (cs : List Char) : lower (lower cs) = lower cs :=
  lowerAfter_of_forall fun _ => not_isCapital_of_mem_lowerAfter

end Chars

namespace Text

@[simp] theorem toList_lower (s : String) : (lower s).toList = Chars.lower s.toList :=
  String.toList_ofList

theorem lower_lower (s : String) : lower (lower s) = lower s := by
  unfold lower
  rw [String.toList_ofList, Chars.lower_lower]

end Text

end GuidedShell
