import GuidedShell.Proofs.Utf8.RoundTrip

/-! How a text is spelled in UTF-8: in one way only, and with a byte below 128 only for a character
below 128. -/
namespace GuidedShell.Utf8

theorem encodeChar_ofNat_two {n : Nat} (hlow : 0x80 ≤ n) (hhigh : n < 0x800) :
    encodeChar (Char.ofNat n) = [UInt8.ofNat (0xC0 + n / 0x40), tailByte n] := by
  unfold encodeChar
  rw [toNat_ofNat_of_valid (by omega)]
  dsimp only
  rw [if_neg (by omega), if_pos (by omega)]
  rfl

theorem encodeChar_ofNat_three {n : Nat} (hlow : 0x800 ≤ n) (hhigh : n < 0x10000)
    (hsurrogate : n < 0xD800 ∨ 0xDFFF < n) :
    encodeChar (Char.ofNat n) =
      [UInt8.ofNat (0xE0 + n / 0x1000), tailByte (n / 0x40), tailByte n] := by
  unfold encodeChar
  rw [toNat_ofNat_of_valid (by omega)]
  dsimp only
  rw [if_neg (by omega), if_neg (by omega), if_pos (by omega)]
  rfl

theorem encodeChar_ofNat_four {n : Nat} (hlow : 0x10000 ≤ n) (hhigh : n < 0x110000) :
    encodeChar (Char.ofNat n) =
      [UInt8.ofNat (0xF0 + n / 0x40000), tailByte (n / 0x1000), tailByte (n / 0x40),
        tailByte n] := by
  unfold encodeChar
  rw [toNat_ofNat_of_valid (by omega)]
  dsimp only
  rw [if_neg (by omega), if_neg (by omega), if_neg (by omega)]
  rfl

/-- Every character that comes of the state is written with these bytes first, whatever bytes the
state then takes. -/
def Begins (front : Bytes) (bits : Nat) (low high : UInt8) : (more : Nat) → Prop
  | 0 => ∀ b, low ≤ b → b ≤ high →
    encodeChar (Char.ofNat (bits * 0x40 + (b.toNat - 0x80))) = front ++ [b]
  | more + 1 => ∀ b, low ≤ b → b ≤ high →
    Begins (front ++ [b]) (bits * 0x40 + (b.toNat - 0x80)) 0x80 0xBF more

/-- These bytes have been taken since the last character. -/
def State.Holds (front : Bytes) : State → Prop
  | .start => front = []
  | .inside more bits low high => Begins front bits low high more

theorem eq_firstByte {b : UInt8} {n : Nat} (h : b.toNat = n) : UInt8.ofNat n = b := by
  rw [← h, UInt8.ofNat_toNat]

theorem eq_tailByte {b : UInt8} {n : Nat} (h : b.toNat = 0x80 + n % 0x40) : tailByte n = b := by
  rw [← UInt8.toNat_inj, toNat_tailByte, h]

theorem begins_two {b : UInt8} {bits : Nat} (hb : b.toNat = 0xC0 + bits) (hlow : 2 ≤ bits)
    (hhigh : bits < 0x20) : Begins [b] bits 0x80 0xBF 0 := by
  intro d hd hd'
  have hl : 0x80 ≤ d.toNat := UInt8.le_iff_toNat_le.1 hd
  have hh : d.toNat ≤ 0xBF := UInt8.le_iff_toNat_le.1 hd'
  rw [encodeChar_ofNat_two (by omega) (by omega), eq_firstByte (b := b) (by omega),
    eq_tailByte (b := d) (by omega)]
  rfl

theorem begins_three {b low high : UInt8} {bits : Nat} (hb : b.toNat = 0xE0 + bits)
    (hbits : bits < 0x10) (hl : 0x80 ≤ low.toNat) (hh : high.toNat ≤ 0xBF)
    (hlong : bits = 0 → 0xA0 ≤ low.toNat) (hsurrogate : bits = 0xD → high.toNat ≤ 0x9F) :
    Begins [b] bits low high 1 := by
  intro d hd hd' e he he'
  have hdl : low.toNat ≤ d.toNat := UInt8.le_iff_toNat_le.1 hd
  have hdh : d.toNat ≤ high.toNat := UInt8.le_iff_toNat_le.1 hd'
  have hel : 0x80 ≤ e.toNat := UInt8.le_iff_toNat_le.1 he
  have heh : e.toNat ≤ 0xBF := UInt8.le_iff_toNat_le.1 he'
  rw [encodeChar_ofNat_three (by omega) (by omega) (by omega), eq_firstByte (b := b) (by omega),
    eq_tailByte (b := d) (by omega), eq_tailByte (b := e) (by omega)]
  rfl

theorem begins_four {b low high : UInt8} {bits : Nat} (hb : b.toNat = 0xF0 + bits)
    (hbits : bits ≤ 4) (hl : 0x80 ≤ low.toNat) (hh : high.toNat ≤ 0xBF)
    (hlong : bits = 0 → 0x90 ≤ low.toNat) (hlast : bits = 4 → high.toNat ≤ 0x8F) :
    Begins [b] bits low high 2 := by
  intro d hd hd' e he he' f hf hf'
  have hdl : low.toNat ≤ d.toNat := UInt8.le_iff_toNat_le.1 hd
  have hdh : d.toNat ≤ high.toNat := UInt8.le_iff_toNat_le.1 hd'
  have hel : 0x80 ≤ e.toNat := UInt8.le_iff_toNat_le.1 he
  have heh : e.toNat ≤ 0xBF := UInt8.le_iff_toNat_le.1 he'
  have hfl : 0x80 ≤ f.toNat := UInt8.le_iff_toNat_le.1 hf
  have hfh : f.toNat ≤ 0xBF := UInt8.le_iff_toNat_le.1 hf'
  rw [encodeChar_ofNat_four (by omega) (by omega), eq_firstByte (b := b) (by omega),
    eq_tailByte (b := d) (by omega), eq_tailByte (b := e) (by omega),
    eq_tailByte (b := f) (by omega)]
  rfl

theorem holds_lead {b : UInt8} {s : State} (h : State.lead b = some s) : s.Holds [b] := by
  rw [lead_eq] at h
  dsimp only at h
  split at h
  · cases h
    exact begins_two (by omega) (by omega) (by omega)
  · split at h
    · cases h
      exact begins_three (by omega) (by omega) (by decide) (by decide) (fun _ => by decide) nofun
    · split at h
      · cases h
        exact begins_three (by omega) (by omega) (by decide) (by decide) nofun fun _ => by decide
      · split at h
        · cases h
          exact begins_three (by omega) (by omega) (by decide) (by decide) (by omega) (by omega)
        · split at h
          · cases h
            exact begins_four (by omega) (by omega) (by decide) (by decide) (fun _ => by decide)
              nofun
          · split at h
            · cases h
              exact begins_four (by omega) (by omega) (by decide) (by decide) nofun
                fun _ => by decide
            · split at h
              · cases h
                exact begins_four (by omega) (by omega) (by decide) (by decide) (by omega)
                  (by omega)
              · cases h

/-- A byte is kept with those before it, or with them it is the character that it ends. -/
theorem holds_step {front : Bytes} {s t : State} {b : UInt8} {c : Option Char}
    (h : s.Holds front) (hs : s.step b = some (t, c)) :
    ∃ rest, t.Holds rest ∧ encode c.toList ++ rest = front ++ [b] := by
  cases s with
  | start =>
    have hfront : front = [] := h
    subst hfront
    by_cases hb : b.toNat < 0x80
    · rw [step_start_ascii hb] at hs
      cases hs
      refine ⟨[], rfl, ?_⟩
      simp only [Option.toList_some, encode, List.flatMap_singleton, encodeChar,
        toNat_ofNat_of_valid (n := b.toNat) (by omega), if_pos hb, eq_firstByte (b := b) rfl,
        List.append_nil, List.nil_append]
    · rw [step_start_lead (by omega)] at hs
      obtain ⟨t', ht, heq⟩ := Option.map_eq_some_iff.1 hs
      cases heq
      exact ⟨[b], holds_lead ht, rfl⟩
  | inside more bits low high =>
    simp only [State.step] at hs
    split at hs
    · rename_i hb
      have hbegins := h
      cases more with
      | zero =>
        cases hs
        refine ⟨[], rfl, ?_⟩
        have hchar := hbegins b hb.1 hb.2
        simp only [Option.toList_some, encode, List.flatMap_singleton, hchar, List.append_nil]
      | succ more =>
        cases hs
        exact ⟨front ++ [b], hbegins b hb.1 hb.2, rfl⟩
    · cases hs

theorem Reads.encode_eq {front bs : Bytes} {s t : State} {cs : List Char} (h : Reads s bs cs t)
    (ht : t = .start) (hs : s.Holds front) : encode cs = front ++ bs := by
  induction h generalizing front with
  | done =>
    subst ht
    have hfront : front = [] := hs
    rw [hfront]
    rfl
  | @byte s t u b bs c cs hstep _ ih =>
    obtain ⟨rest, hrest, heq⟩ := holds_step hs hstep
    calc encode (c.toList ++ cs) = encode c.toList ++ encode cs := encode_append _ _
      _ = encode c.toList ++ (rest ++ bs) := by rw [ih ht hrest]
      _ = front ++ [b] ++ bs := by rw [← List.append_assoc, heq]
      _ = front ++ b :: bs := List.append_assoc front [b] bs

/-- Text that can be read strictly is written with the bytes it was read from. -/
theorem encode_of_decode? {bs : Bytes} {cs : List Char} (h : decode? bs = some cs) :
    encode cs = bs :=
  (decodeFrom_eq_some_iff.1 h).encode_eq rfl rfl

/-! A byte below 128 is always a character of its own. -/

theorem le_of_mem_encodeChar {b : UInt8} {c : Char} (hc : 0x80 ≤ c.toNat) (h : b ∈ encodeChar c) :
    0x80 ≤ b.toNat := by
  have hvalid : c.toNat < 0xD800 ∨ 0xDFFF < c.toNat ∧ c.toNat < 0x110000 := c.valid
  have htail (m : Nat) : 0x80 ≤ (tailByte m).toNat := by
    rw [toNat_tailByte]
    omega
  have hfirst {n : Nat} (hlow : 0x80 ≤ n) (hhigh : n < 256) : 0x80 ≤ (UInt8.ofNat n).toNat := by
    rwa [toNat_firstByte hhigh]
  rw [← Char.ofNat_toNat c] at h
  by_cases htwo : c.toNat < 0x800
  · rw [encodeChar_ofNat_two hc htwo] at h
    simp only [List.mem_cons, List.not_mem_nil, or_false] at h
    obtain rfl | rfl := h
    · exact hfirst (by omega) (by omega)
    · exact htail _
  · by_cases hthree : c.toNat < 0x10000
    · rw [encodeChar_ofNat_three (by omega) hthree (by omega)] at h
      simp only [List.mem_cons, List.not_mem_nil, or_false] at h
      obtain rfl | rfl | rfl := h
      · exact hfirst (by omega) (by omega)
      · exact htail _
      · exact htail _
    · rw [encodeChar_ofNat_four (by omega) (by omega)] at h
      simp only [List.mem_cons, List.not_mem_nil, or_false] at h
      obtain rfl | rfl | rfl | rfl := h
      · exact hfirst (by omega) (by omega)
      · exact htail _
      · exact htail _
      · exact htail _

theorem mem_encodeChar_iff {b : UInt8} (hb : b.toNat < 0x80) {c : Char} :
    b ∈ encodeChar c ↔ c.toNat = b.toNat := by
  by_cases hc : c.toNat < 0x80
  · have hchar : encodeChar c = [UInt8.ofNat c.toNat] := by
      unfold encodeChar
      exact if_pos hc
    rw [hchar, List.mem_singleton, ← UInt8.toNat_inj, toNat_firstByte (by omega)]
    exact eq_comm
  · constructor
    · intro h
      have hhigh := le_of_mem_encodeChar (Nat.le_of_not_lt hc) h
      omega
    · omega

theorem mem_encode_iff {b : UInt8} (hb : b.toNat < 0x80) {cs : List Char} :
    b ∈ encode cs ↔ Char.ofNat b.toNat ∈ cs := by
  have hchar (c : Char) : b ∈ encodeChar c ↔ c = Char.ofNat b.toNat := by
    rw [mem_encodeChar_iff hb, ← Char.toNat_inj, toNat_ofNat_of_valid (by omega)]
  simp [encode, hchar]

end GuidedShell.Utf8
