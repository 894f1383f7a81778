import GuidedShell.Command.External
import GuidedShell.Proofs.Text.LowerAscii

/-! The markers of a missing program in the error output of another. They are found just where their
letters stand among the bytes, in any case: neither what cannot be read nor the lower case of other
characters makes one up or hides one. -/
namespace GuidedShell

/-- A capital letter of ASCII made small. Every other byte stays as it is. -/
def smallByte (b : UInt8) : UInt8 := if 0x41 ≤ b ∧ b ≤ 0x5A then b + 0x20 else b

/-- The same bytes, the case of ASCII letters aside. -/
def AlikeInCase (xs ys : Bytes) : Prop := xs.map smallByte = ys.map smallByte

open Chars Utf8

theorem smallByte_ofNat {c : Char} (h : c.toNat < 0x80) :
    smallByte (UInt8.ofNat c.toNat) = UInt8.ofNat c.toLower.toNat := by
  have hall : ∀ n < 0x80,
      smallByte (UInt8.ofNat n) = UInt8.ofNat (Char.ofNat n).toLower.toNat := by decide +kernel
  have hc := hall c.toNat h
  rwa [Char.ofNat_toNat] at hc

theorem lt_of_smallByte_lt {b : UInt8} (h : (smallByte b).toNat < 0x80) : b.toNat < 0x80 := by
  have hall : ∀ n < 0x100, (smallByte (UInt8.ofNat n)).toNat < 0x80 → n < 0x80 := by
    decide +kernel
  refine hall b.toNat b.toNat_lt ?_
  rwa [UInt8.ofNat_toNat]

variable {cs m : List Char} {bs : Bytes}

theorem map_smallByte_encode (h : IsAscii cs) :
    (encode cs).map smallByte = encode (cs.map Char.toLower) := by
  induction cs with
  | nil => rfl
  | cons c cs ih =>
    obtain ⟨hc, hcs⟩ := List.forall_mem_cons.1 h
    rw [encode_cons hc, List.map_cons, List.map_cons, encode_cons (toNat_toLower_lt hc),
      smallByte_ofNat hc, ih hcs]

/-- A plain text of small letters is found in the lower case of what is read just where the bytes
have it in any case. -/
theorem infix_lower_decodeLossy_iff (h : IsPlain m) (hm : m ≠ [])
    (hsmall : m.map Char.toLower = m) :
    m <:+: lower (decodeLossy bs) ↔ ∃ part, part <:+: bs ∧ AlikeInCase part (encode m) := by
  have hfold : m <:+: lower (decodeLossy bs) ↔
      ∃ cs, cs <:+: decodeLossy bs ∧ m = cs.map Char.toLower :=
    (h.infix_lowerAfter_iff hm).trans List.infix_map_iff
  have hencoded : (encode m).map smallByte = encode m := by
    rw [map_smallByte_encode h.ascii, hsmall]
  unfold AlikeInCase
  rw [hfold, hencoded]
  constructor
  · rintro ⟨cs, hcs, heq⟩
    have hascii : IsAscii cs := isAscii_of_map_toLower (heq ▸ h.ascii)
    have hne : cs ≠ [] := by
      rintro rfl
      exact hm heq
    refine ⟨encode cs, (infix_decodeLossy_iff hascii hne).1 hcs, ?_⟩
    rw [map_smallByte_encode hascii, ← heq]
  · rintro ⟨part, hpart, heq⟩
    have hlow : ∀ b ∈ part, b.toNat < 0x80 := fun b hb => by
      refine lt_of_smallByte_lt (lt_of_mem_encode h.ascii ?_)
      rw [← heq]
      exact List.mem_map_of_mem hb
    obtain ⟨cs, hascii, rfl⟩ := exists_encode_eq hlow
    rw [map_smallByte_encode hascii] at heq
    have hlower : cs.map Char.toLower = m := encode_inj heq
    have hne : cs ≠ [] := by
      rintro rfl
      exact hm hlower.symm
    exact ⟨cs, (infix_decodeLossy_iff hascii hne).2 hpart, hlower.symm⟩

namespace Command.External

/-- The error output of a program says that something is missing just if one of the markers stands
somewhere among its bytes, whatever else does, the case of ASCII letters aside. -/
theorem reportsMissingProgram_iff_bytes (stderr : Bytes) :
    reportsMissingProgram stderr ↔ ∃ marker ∈ ["not recognized", "not found", "no such file"],
      ∃ part, part <:+: stderr ∧ AlikeInCase part (Text.bytes marker) := by
  have hplain : ∀ marker ∈ notFoundMarkers, IsPlain marker.toList ∧ marker.toList ≠ [] ∧
      marker.toList.map Char.toLower = marker.toList := by decide +kernel
  unfold reportsMissingProgram
  simp only [List.any_eq_true]
  refine exists_congr fun marker => and_congr_right fun hmarker => ?_
  obtain ⟨hm, hne, hsmall⟩ := hplain marker hmarker
  have hsaid : (Text.lower (Text.ofBytesLossy stderr)).toList = lower (decodeLossy stderr) := by
    rw [Text.toList_lower, Text.ofBytesLossy, String.toList_ofList]
  rw [hsaid, hasInfix_iff]
  exact infix_lower_decodeLossy_iff hm hne hsmall

/-- A character that is broken off right before a marker leaves the marker whole. -/
example : reportsMissingProgram ([0xE2, 0x84] ++ Text.bytes "Not Found") = true := by decide +kernel

end Command.External

end GuidedShell
