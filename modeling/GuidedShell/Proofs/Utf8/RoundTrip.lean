import GuidedShell.Proofs.Utf8.Reads
import Mathlib.Tactic.Common

/-! Reading gives back what has been written in UTF-8. -/
namespace GuidedShell.Utf8

/-- The byte that carries the six lowest bits of a number. -/
def tailByte (m : Nat) : UInt8 := UInt8.ofNat (0x80 + m % 0x40)

theorem toNat_tailByte (m : Nat) : (tailByte m).toNat = 0x80 + m % 0x40 := by
  have hlt : 0x80 + m % 0x40 < 256 := by omega
  simp [tailByte, Nat.mod_eq_of_lt hlt]

theorem toNat_firstByte {n : Nat} (h : n < 256) : (UInt8.ofNat n).toNat = n := by
  simp [Nat.mod_eq_of_lt h]

/-- The state after a first byte, told by the number of the byte. -/
theorem lead_eq (b : UInt8) : State.lead b =
    let n := b.toNat
    if 0xC2 ≤ n ∧ n ≤ 0xDF then some (.inside 0 (n - 0xC0) 0x80 0xBF)
    else if n = 0xE0 then some (.inside 1 0x0 0xA0 0xBF)
    else if n = 0xED then some (.inside 1 0xD 0x80 0x9F)
    else if 0xE1 ≤ n ∧ n ≤ 0xEF then some (.inside 1 (n - 0xE0) 0x80 0xBF)
    else if n = 0xF0 then some (.inside 2 0 0x90 0xBF)
    else if n = 0xF4 then some (.inside 2 4 0x80 0x8F)
    else if 0xF1 ≤ n ∧ n ≤ 0xF3 then some (.inside 2 (n - 0xF0) 0x80 0xBF)
    else none := by
  simp only [State.lead, UInt8.le_iff_toNat_le, ← UInt8.toNat_inj]
  rfl

theorem step_start_ascii {b : UInt8} (h : b.toNat < 0x80) :
    State.start.step b = some (.start, some (Char.ofNat b.toNat)) := by
  have hlt : b < 0x80 := UInt8.lt_iff_toNat_lt.2 h
  simp [State.step, hlt]

theorem step_start_lead {b : UInt8} (h : 0x80 ≤ b.toNat) :
    State.start.step b = (State.lead b).map (·, none) := by
  have hlt : ¬ b < 0x80 := fun hb => by
    have := UInt8.lt_iff_toNat_lt.1 hb
    change b.toNat < 0x80 at this
    omega
  simp [State.step, hlt]

theorem step_inside {low high b : UInt8} (hl : low.toNat ≤ b.toNat) (hh : b.toNat ≤ high.toNat)
    (more bits : Nat) :
    (State.inside more bits low high).step b =
      match more with
      | 0 => some (.start, some (Char.ofNat (bits * 0x40 + (b.toNat - 0x80))))
      | more + 1 => some (.inside more (bits * 0x40 + (b.toNat - 0x80)) 0x80 0xBF, none) := by
  have hb : low ≤ b ∧ b ≤ high := ⟨UInt8.le_iff_toNat_le.2 hl, UInt8.le_iff_toNat_le.2 hh⟩
  cases more with
  | zero => simp only [State.step, if_pos hb]
  | succ more => simp only [State.step, if_pos hb]

theorem step_tailByte {low high : UInt8} {m : Nat} (hl : low.toNat ≤ 0x80 + m % 0x40)
    (hh : 0x80 + m % 0x40 ≤ high.toNat) (more bits : Nat) :
    (State.inside more bits low high).step (tailByte m) =
      match more with
      | 0 => some (.start, some (Char.ofNat (bits * 0x40 + m % 0x40)))
      | more + 1 => some (.inside more (bits * 0x40 + m % 0x40) 0x80 0xBF, none) := by
  have hm : (tailByte m).toNat - 0x80 = m % 0x40 := by
    rw [toNat_tailByte, Nat.add_sub_cancel_left]
  rw [← toNat_tailByte] at hl hh
  rw [step_inside hl hh more bits, hm]

theorem lead_three {n : Nat} (hlow : 0x800 ≤ n) (hhigh : n < 0x10000)
    (hsurrogate : n < 0xD800 ∨ 0xDFFF < n) :
    ∃ low high : UInt8,
      State.lead (UInt8.ofNat (0xE0 + n / 0x1000)) = some (.inside 1 (n / 0x1000) low high) ∧
      low.toNat ≤ 0x80 + n / 0x40 % 0x40 ∧ 0x80 + n / 0x40 % 0x40 ≤ high.toNat := by
  have hb : (UInt8.ofNat (0xE0 + n / 0x1000)).toNat = 0xE0 + n / 0x1000 :=
    toNat_firstByte (by omega)
  rw [lead_eq, hb]
  dsimp only
  by_cases h0 : n / 0x1000 = 0
  · refine ⟨0xA0, 0xBF, by simp [h0], ?_, ?_⟩
    · change 0xA0 ≤ _
      omega
    · change _ ≤ 0xBF
      omega
  · by_cases hD : n / 0x1000 = 0xD
    · refine ⟨0x80, 0x9F, by simp [hD], ?_, ?_⟩
      · change 0x80 ≤ _
        omega
      · change _ ≤ 0x9F
        omega
    · refine ⟨0x80, 0xBF, ?_, ?_, ?_⟩
      · rw [if_neg (by omega), if_neg (by omega), if_neg (by omega), if_pos (by omega)]
        simp
      · change 0x80 ≤ _
        omega
      · change _ ≤ 0xBF
        omega

theorem lead_four {n : Nat} (hlow : 0x10000 ≤ n) (hhigh : n < 0x110000) :
    ∃ low high : UInt8,
      State.lead (UInt8.ofNat (0xF0 + n / 0x40000)) = some (.inside 2 (n / 0x40000) low high) ∧
      low.toNat ≤ 0x80 + n / 0x1000 % 0x40 ∧ 0x80 + n / 0x1000 % 0x40 ≤ high.toNat := by
  have hb : (UInt8.ofNat (0xF0 + n / 0x40000)).toNat = 0xF0 + n / 0x40000 :=
    toNat_firstByte (by omega)
  rw [lead_eq, hb]
  dsimp only
  by_cases h0 : n / 0x40000 = 0
  · refine ⟨0x90, 0xBF, by simp [h0], ?_, ?_⟩
    · change 0x90 ≤ _
      omega
    · change _ ≤ 0xBF
      omega
  · by_cases h4 : n / 0x40000 = 4
    · refine ⟨0x80, 0x8F, by simp [h4], ?_, ?_⟩
      · change 0x80 ≤ _
        omega
      · change _ ≤ 0x8F
        omega
    · refine ⟨0x80, 0xBF, ?_, ?_, ?_⟩
      · rw [if_neg (by omega), if_neg (by omega), if_neg (by omega), if_neg (by omega),
          if_neg (by omega), if_neg (by omega), if_pos (by omega)]
        simp
      · change 0x80 ≤ _
        omega
      · change _ ≤ 0xBF
        omega

theorem low_le_tail (m : Nat) : (0x80 : UInt8).toNat ≤ 0x80 + m % 0x40 := Nat.le_add_right _ _

theorem tail_le_high (m : Nat) : 0x80 + m % 0x40 ≤ (0xBF : UInt8).toNat := by
  change 0x80 + m % 0x40 ≤ 0xBF
  omega

theorem reads_two {n : Nat} (hlow : 0x80 ≤ n) (hhigh : n < 0x800) :
    Reads .start [UInt8.ofNat (0xC0 + n / 0x40), tailByte n] [Char.ofNat n] .start := by
  have hb : (UInt8.ofNat (0xC0 + n / 0x40)).toNat = 0xC0 + n / 0x40 := toNat_firstByte (by omega)
  have hstep : State.start.step (UInt8.ofNat (0xC0 + n / 0x40)) =
      some (.inside 0 (n / 0x40) 0x80 0xBF, none) := by
    rw [step_start_lead (by omega), lead_eq, hb]
    dsimp only
    rw [if_pos (by omega)]
    simp
  have hn : n / 0x40 * 0x40 + n % 0x40 = n := by omega
  have hlast := step_tailByte (low_le_tail n) (tail_le_high n) 0 (n / 0x40)
  rw [hn] at hlast
  exact .byte hstep (.byte hlast .done)

theorem reads_three {n : Nat} (hlow : 0x800 ≤ n) (hhigh : n < 0x10000)
    (hsurrogate : n < 0xD800 ∨ 0xDFFF < n) :
    Reads .start [UInt8.ofNat (0xE0 + n / 0x1000), tailByte (n / 0x40), tailByte n]
      [Char.ofNat n] .start := by
  obtain ⟨low, high, hlead, hl, hh⟩ := lead_three hlow hhigh hsurrogate
  have hb : (UInt8.ofNat (0xE0 + n / 0x1000)).toNat = 0xE0 + n / 0x1000 :=
    toNat_firstByte (by omega)
  have hstep := step_start_lead (b := UInt8.ofNat (0xE0 + n / 0x1000)) (by omega)
  rw [hlead] at hstep
  have hn : (n / 0x1000 * 0x40 + n / 0x40 % 0x40) * 0x40 + n % 0x40 = n := by omega
  have hsecond := step_tailByte hl hh 1 (n / 0x1000)
  have hlast := step_tailByte (low_le_tail n) (tail_le_high n) 0
    (n / 0x1000 * 0x40 + n / 0x40 % 0x40)
  rw [hn] at hlast
  exact .byte hstep (.byte hsecond (.byte hlast .done))

theorem reads_four {n : Nat} (hlow : 0x10000 ≤ n) (hhigh : n < 0x110000) :
    Reads .start [UInt8.ofNat (0xF0 + n / 0x40000), tailByte (n / 0x1000), tailByte (n / 0x40),
      tailByte n] [Char.ofNat n] .start := by
  obtain ⟨low, high, hlead, hl, hh⟩ := lead_four hlow hhigh
  have hb : (UInt8.ofNat (0xF0 + n / 0x40000)).toNat = 0xF0 + n / 0x40000 :=
    toNat_firstByte (by omega)
  have hstep := step_start_lead (b := UInt8.ofNat (0xF0 + n / 0x40000)) (by omega)
  rw [hlead] at hstep
  have hn : ((n / 0x40000 * 0x40 + n / 0x1000 % 0x40) * 0x40 + n / 0x40 % 0x40) * 0x40 +
      n % 0x40 = n := by omega
  have hsecond := step_tailByte hl hh 2 (n / 0x40000)
  have hthird := step_tailByte (low_le_tail (n / 0x40)) (tail_le_high (n / 0x40)) 1
    (n / 0x40000 * 0x40 + n / 0x1000 % 0x40)
  have hlast := step_tailByte (low_le_tail n) (tail_le_high n) 0
    ((n / 0x40000 * 0x40 + n / 0x1000 % 0x40) * 0x40 + n / 0x40 % 0x40)
  rw [hn] at hlast
  exact .byte hstep (.byte hsecond (.byte hthird (.byte hlast .done)))

/-- The bytes of a character are read as that character. The cases are its four lengths. -/
theorem reads_encodeChar (c : Char) : Reads .start (encodeChar c) [c] .start := by
  have hvalid : c.toNat < 0xD800 ∨ 0xDFFF < c.toNat ∧ c.toNat < 0x110000 := c.valid
  have hc : Char.ofNat c.toNat = c := Char.ofNat_toNat c
  unfold encodeChar
  dsimp only
  generalize c.toNat = n at hvalid hc
  rw [← hc]
  split
  · have hb := toNat_firstByte (n := n) (by omega)
    have hstep := step_start_ascii (b := UInt8.ofNat n) (by omega)
    rw [hb] at hstep
    exact .byte hstep .done
  · split
    · exact reads_two (by omega) (by omega)
    · split
      · exact reads_three (by omega) (by omega) (by omega)
      · exact reads_four (by omega) (by omega)

theorem encode_append (cs ds : List Char) : encode (cs ++ ds) = encode cs ++ encode ds :=
  List.flatMap_append

theorem reads_encode (cs : List Char) : Reads .start (encode cs) cs .start := by
  unfold encode
  induction cs with
  | nil => exact .done
  | cons c cs ih => exact (reads_encodeChar c).append ih

/-- Reading gives back what has been written, and has nothing to replace. -/
theorem decodeLossy_encode (cs : List Char) : decodeLossy (encode cs) = cs := by
  have hread := (reads_encode cs).decodeLossyFrom_append []
  rw [List.append_nil] at hread
  exact hread.trans (List.append_nil cs)

theorem decode?_encode (cs : List Char) : decode? (encode cs) = some cs :=
  decodeFrom_eq_some_iff.2 (reads_encode cs)

end GuidedShell.Utf8
