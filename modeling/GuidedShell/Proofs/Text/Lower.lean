import GuidedShell.Proofs.Utf8.Reads
import GuidedShell.Text

/-! What lower case leaves of a text: something of each of its characters, and nothing below the small
letters that was not there. -/
namespace GuidedShell

namespace Chars

theorem le_image_of_mem_caseRuns : ∀ r ∈ caseRuns, 0x61 ≤ r.image := by
  decide +kernel

theorem lowerChar_ne_nil (c : Char) : lowerChar c ≠ [] := by
  unfold lowerChar
  split
  · exact nofun
  · split <;> exact nofun

theorem lower_ne_nil {cs : List Char} (h : cs ≠ []) : lower cs ≠ [] := by
  obtain ⟨c, cs, rfl⟩ := List.exists_cons_of_ne_nil h
  unfold lower lowerAfter
  refine List.append_ne_nil_of_left_ne_nil ?_ _
  split
  · split <;> exact nofun
  · exact lowerChar_ne_nil c

/-- A character below the small letters is the lower case of no other. -/
theorem mem_lowerChar {c d : Char} (hzero : 0 < c.toNat) (hc : c.toNat < 0x61)
    (h : c ∈ lowerChar d) : c = d := by
  unfold lowerChar at h
  split at h
  · rcases List.mem_cons.1 h with rfl | h
    · exact absurd hc (by decide)
    · rw [List.mem_singleton.1 h] at hc
      exact absurd hc (by decide)
  · split at h
    · rename_i r hr
      have himage := le_image_of_mem_caseRuns r (List.mem_of_find?_eq_some hr)
      rw [List.mem_singleton.1 h] at hzero hc
      rcases Utf8.toNat_ofNat (r.image + (d.toNat - r.first)) with heq | heq
      · omega
      · omega
    · exact List.mem_singleton.1 h

theorem mem_of_mem_lowerAfter {c : Char} (hzero : 0 < c.toNat) (hc : c.toNat < 0x61)
    {before cs : List Char} (h : c ∈ lowerAfter before cs) : c ∈ cs := by
  induction cs generalizing before with
  | nil => cases h
  | cons d ds ih =>
    unfold lowerAfter at h
    rcases List.mem_append.1 h with h | h
    · split at h
      · -- The two small sigmas stand far above the letters of ASCII.
        have hsigma : c = 'ς' ∨ c = 'σ' := by
          split at h
          · exact .inl (List.mem_singleton.1 h)
          · exact .inr (List.mem_singleton.1 h)
        rcases hsigma with rfl | rfl
        · exact absurd hc (by decide)
        · exact absurd hc (by decide)
      · rw [mem_lowerChar hzero hc h]
        exact List.mem_cons_self
    · exact List.mem_cons_of_mem d (ih h)

end Chars

namespace Text

theorem lower_ne_empty {s : String} (h : s ≠ "") : lower s ≠ "" := by
  have hs : s.toList ≠ [] := fun hnil => h (String.toList_eq_nil_iff.1 hnil)
  intro hempty
  refine Chars.lower_ne_nil hs ?_
  rw [← String.toList_ofList (l := Chars.lower s.toList)]
  exact String.toList_eq_nil_iff.2 hempty

theorem mem_of_mem_lower {c : Char} (hzero : 0 < c.toNat) (hc : c.toNat < 0x61) {s : String}
    (h : c ∈ (lower s).toList) : c ∈ s.toList := by
  unfold lower at h
  rw [String.toList_ofList] at h
  exact Chars.mem_of_mem_lowerAfter hzero hc h

end Text

end GuidedShell
