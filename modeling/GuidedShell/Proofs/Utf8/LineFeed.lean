import GuidedShell.Proofs.Utf8.Reads
import Mathlib.Algebra.Group.Nat.Defs
import Mathlib.Tactic.Common

/-! Line feeds in UTF-8: a byte is a line feed just where the text has one. -/
namespace GuidedShell.Utf8

/-- A character that has begun with more than one byte will not be one of the first 128. -/
def State.Long : State → Prop
  | .start => True
  | .inside more bits low _ =>
    0x80 ≤ low.toNat ∧ 0x80 ≤ (bits * 0x40 + (low.toNat - 0x80)) * 0x40 ^ more

theorem long_lead {b : UInt8} {s : State} (h : State.lead b = some s) : s.Long := by
  unfold State.lead at h
  split at h
  · rename_i hb
    have hlow : 0xC2 ≤ b.toNat := UInt8.le_iff_toNat_le.1 hb.1
    cases h
    refine ⟨Nat.le_refl _, ?_⟩
    change 0x80 ≤ ((b.toNat - 0xC0) * 0x40 + 0) * 1
    omega
  · split at h
    · cases h
      exact ⟨by decide, by decide⟩
    · split at h
      · cases h
        exact ⟨by decide, by decide⟩
      · split at h
        · rename_i hb
          have hlow : 0xE1 ≤ b.toNat := UInt8.le_iff_toNat_le.1 hb.1
          cases h
          refine ⟨Nat.le_refl _, ?_⟩
          change 0x80 ≤ ((b.toNat - 0xE0) * 0x40 + 0) * 0x40
          omega
        · split at h
          · cases h
            exact ⟨by decide, by decide⟩
          · split at h
            · cases h
              exact ⟨by decide, by decide⟩
            · split at h
              · rename_i hb
                have hlow : 0xF1 ≤ b.toNat := UInt8.le_iff_toNat_le.1 hb.1
                cases h
                refine ⟨Nat.le_refl _, ?_⟩
                change 0x80 ≤ ((b.toNat - 0xF0) * 0x40 + 0) * 0x1000
                omega
              · cases h

theorem ofNat_ne_lineFeed {n : Nat} (h : n ≠ 0x0A) : Char.ofNat n ≠ '\n' := by
  intro heq
  rcases toNat_ofNat n with hnumber | hnumber
  · rw [heq] at hnumber
    exact h hnumber.symm
  · rw [heq] at hnumber
    cases hnumber

/-- One byte: the state stays as it has to be, and the byte is a line feed just if it ends a
character that is one. -/
theorem long_step {s s' : State} {b : UInt8} {c : Option Char} (h : s.Long)
    (hs : s.step b = some (s', c)) :
    s'.Long ∧ (c = some '\n' → b = 0x0A) ∧ (b = 0x0A → s' = .start ∧ c = some '\n') := by
  cases s with
  | start =>
    simp only [State.step] at hs
    split at hs
    · obtain ⟨rfl, rfl⟩ := Prod.mk.inj (Option.some.inj hs)
      refine ⟨trivial, ?_, ?_⟩
      · intro hc
        by_contra hb
        have hn : b.toNat ≠ 0x0A := fun hn => hb (UInt8.toNat_inj.1 hn)
        exact ofNat_ne_lineFeed hn (Option.some.inj hc)
      · rintro rfl
        exact ⟨rfl, rfl⟩
    · rename_i hb
      obtain ⟨t, ht, heq⟩ := Option.map_eq_some_iff.1 hs
      obtain ⟨rfl, rfl⟩ := Prod.mk.inj heq
      refine ⟨long_lead ht, nofun, ?_⟩
      rintro rfl
      exact absurd (by decide) hb
  | inside more bits low high =>
    obtain ⟨hlow, hlong⟩ := h
    simp only [State.step] at hs
    split at hs
    · rename_i hb
      have hle : low.toNat ≤ b.toNat := UInt8.le_iff_toNat_le.1 hb.1
      have hfeed : b ≠ 0x0A := by
        rintro rfl
        change low.toNat ≤ 0x0A at hle
        omega
      cases more with
      | zero =>
        obtain ⟨rfl, rfl⟩ := Prod.mk.inj (Option.some.inj hs)
        refine ⟨trivial, ?_, fun hb => absurd hb hfeed⟩
        intro hc
        have hn : bits * 0x40 + (b.toNat - 0x80) ≠ 0x0A := by
          rw [pow_zero, Nat.mul_one] at hlong
          omega
        exact absurd (Option.some.inj hc) (ofNat_ne_lineFeed hn)
      | succ more =>
        obtain ⟨rfl, rfl⟩ := Prod.mk.inj (Option.some.inj hs)
        refine ⟨⟨Nat.le_refl _, ?_⟩, nofun, fun hb => absurd hb hfeed⟩
        have hgrow : bits * 0x40 + (low.toNat - 0x80) ≤ bits * 0x40 + (b.toNat - 0x80) := by omega
        generalize bits * 0x40 + (b.toNat - 0x80) = bits' at hgrow
        have hzero : bits' * 0x40 + ((0x80 : UInt8).toNat - 0x80) = bits' * 0x40 := rfl
        calc 0x80 ≤ (bits * 0x40 + (low.toNat - 0x80)) * 0x40 ^ (more + 1) := hlong
          _ ≤ bits' * 0x40 ^ (more + 1) := Nat.mul_le_mul_right _ hgrow
          _ = bits' * 0x40 * 0x40 ^ more := by
            rw [pow_succ, Nat.mul_comm (0x40 ^ more), Nat.mul_assoc]
          _ = (bits' * 0x40 + ((0x80 : UInt8).toNat - 0x80)) * 0x40 ^ more := by rw [hzero]
    · cases hs

/-- A text without line feeds comes from bytes without them. -/
theorem lineFeed_not_mem_of_decodeFrom {s : State} {bs : Bytes} {cs : List Char} (hs : s.Long)
    (h : decodeFrom s bs = some cs) (hbs : 0x0A ∉ bs) : '\n' ∉ cs := by
  induction bs generalizing s cs with
  | nil =>
    cases s with
    | start =>
      cases h
      simp
    | inside => cases h
  | cons b bs ih =>
    obtain ⟨s', c, rest, hstep, hrest, rfl⟩ := decodeFrom_cons_eq_some_iff.1 h
    obtain ⟨hs', hc, -⟩ := long_step hs hstep
    have hb : b ≠ 0x0A := fun hb => hbs (hb ▸ List.mem_cons_self)
    rw [List.mem_append, not_or]
    constructor
    · intro hmem
      exact hb (hc (Option.mem_toList.1 hmem))
    · exact ih hs' hrest fun hmem => hbs (List.mem_cons_of_mem _ hmem)

/-- A line feed after some bytes is the last character of their text. -/
theorem decodeFrom_append_lineFeed {s : State} {bs : Bytes} {cs : List Char} (hs : s.Long)
    (h : decodeFrom s (bs ++ [0x0A]) = some cs) :
    ∃ front, decodeFrom s bs = some front ∧ cs = front ++ ['\n'] := by
  induction bs generalizing s cs with
  | nil =>
    obtain ⟨s', c, rest, hstep, hrest, rfl⟩ := decodeFrom_cons_eq_some_iff.1 h
    obtain ⟨-, -, hfeed⟩ := long_step hs hstep
    obtain ⟨rfl, rfl⟩ := hfeed rfl
    cases s with
    | start =>
      cases hrest
      exact ⟨[], rfl, rfl⟩
    | inside more bits low high =>
      obtain ⟨hlow, -⟩ := hs
      simp only [State.step] at hstep
      split at hstep
      · rename_i hb
        have hle : low.toNat ≤ 0x0A := UInt8.le_iff_toNat_le.1 hb.1
        omega
      · cases hstep
  | cons b bs ih =>
    obtain ⟨s', c, rest, hstep, hrest, rfl⟩ := decodeFrom_cons_eq_some_iff.1 h
    obtain ⟨hs', -, -⟩ := long_step hs hstep
    obtain ⟨front, hfront, rfl⟩ := ih hs' hrest
    refine ⟨c.toList ++ front, ?_, (List.append_assoc ..).symm⟩
    exact decodeFrom_cons_eq_some_iff.2 ⟨s', c, front, hstep, hfront, rfl⟩

end GuidedShell.Utf8
