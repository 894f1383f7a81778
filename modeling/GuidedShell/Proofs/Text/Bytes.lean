import GuidedShell.Proofs.Utf8.Spelling
import GuidedShell.Text

/-! The bytes of a text, which only that text has. -/
namespace GuidedShell.Text

theorem ofBytes?_eq_some_iff {bs : Bytes} {s : String} : ofBytes? bs = some s ↔ bytes s = bs := by
  unfold ofBytes? bytes
  rw [Option.map_eq_some_iff]
  constructor
  · rintro ⟨cs, hcs, rfl⟩
    rw [String.toList_ofList]
    exact Utf8.encode_of_decode? hcs
  · rintro rfl
    exact ⟨s.toList, Utf8.decode?_encode _, String.ofList_toList⟩

theorem mem_bytes_iff {b : UInt8} (hb : b.toNat < 0x80) {s : String} :
    b ∈ bytes s ↔ Char.ofNat b.toNat ∈ s.toList := Utf8.mem_encode_iff hb

theorem bytes_append (s t : String) : bytes (s ++ t) = bytes s ++ bytes t := by
  unfold bytes
  rw [String.toList_append, Utf8.encode_append]

theorem bytes_eq_nil_iff {s : String} : bytes s = [] ↔ s = "" := by
  constructor
  · intro h
    have hread : ofBytes? [] = some s := ofBytes?_eq_some_iff.2 h
    exact (Option.some.inj hread).symm
  · rintro rfl
    rfl

end GuidedShell.Text
