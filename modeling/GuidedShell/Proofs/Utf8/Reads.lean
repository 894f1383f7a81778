import GuidedShell.Utf8

/-! Bytes of UTF-8 that can be read to the end. On these the strict and the lossy reader agree. -/
namespace GuidedShell.Utf8

theorem toNat_ofNat_of_valid {n : Nat} (h : n < 0xD800 ∨ 0xDFFF < n ∧ n < 0x110000) :
    (Char.ofNat n).toNat = n := by
  have hvalid : n.isValidChar := h
  rw [Char.ofNat, dif_pos hvalid]
  rfl

/-- A number that no character has gives the character zero. -/
theorem toNat_ofNat (n : Nat) : (Char.ofNat n).toNat = n ∨ (Char.ofNat n).toNat = 0 := by
  by_cases h : n.isValidChar
  · exact .inl (toNat_ofNat_of_valid h)
  · right
    rw [Char.ofNat, dif_neg h]
    rfl

/-- The bytes lead from one state to another, and end these characters on the way. -/
inductive Reads : State → Bytes → List Char → State → Prop
  | done {s} : Reads s [] [] s
  | byte {s t u b bs c cs} (step : State.step s b = some (t, c)) (rest : Reads t bs cs u) :
    Reads s (b :: bs) (c.toList ++ cs) u

variable {s t u : State} {b : UInt8} {bs : Bytes} {c : Option Char} {cs : List Char}

theorem decodeFrom_cons_of_none (h : s.step b = none) (bs : Bytes) :
    decodeFrom s (b :: bs) = none := by
  cases s <;> simp only [decodeFrom, h]

theorem decodeFrom_cons_of_some (h : s.step b = some (t, c)) (bs : Bytes) :
    decodeFrom s (b :: bs) = (decodeFrom t bs).map (c.toList ++ ·) := by
  cases c with
  | none =>
    have hsame : (decodeFrom t bs).map (([] : List Char) ++ ·) = decodeFrom t bs :=
      Option.map_id'
    rw [Option.toList_none, hsame]
    cases s <;> simp only [decodeFrom, h]
  | some c =>
    rw [Option.toList_some]
    cases s <;> simp only [decodeFrom, h, List.singleton_append]

theorem decodeFrom_cons_eq_some_iff : decodeFrom s (b :: bs) = some cs ↔
    ∃ t c rest, s.step b = some (t, c) ∧ decodeFrom t bs = some rest ∧ cs = c.toList ++ rest := by
  cases hstep : s.step b with
  | none => simp [decodeFrom_cons_of_none hstep]
  | some next =>
    obtain ⟨t, c⟩ := next
    rw [decodeFrom_cons_of_some hstep, Option.map_eq_some_iff]
    constructor
    · rintro ⟨rest, hrest, rfl⟩
      exact ⟨t, c, rest, rfl, hrest, rfl⟩
    · rintro ⟨_, _, rest, heq, hrest, rfl⟩
      cases heq
      exact ⟨rest, hrest, rfl⟩

theorem decodeLossyFrom_cons (h : s.step b = some (t, c)) (bs : Bytes) :
    decodeLossyFrom s (b :: bs) = c.toList ++ decodeLossyFrom t bs := by
  simp only [decodeLossyFrom, State.advance, h]

namespace Reads

theorem append {more : Bytes} {ds : List Char} (h : Reads s bs cs t) (k : Reads t more ds u) :
    Reads s (bs ++ more) (cs ++ ds) u := by
  induction h with
  | done => exact k
  | byte hstep _ ih =>
    rw [List.append_assoc]
    exact .byte hstep (ih k)

/-- The lossy reader has nothing to replace. -/
theorem decodeLossyFrom_append (h : Reads s bs cs t) (more : Bytes) :
    decodeLossyFrom s (bs ++ more) = cs ++ decodeLossyFrom t more := by
  induction h with
  | done => rfl
  | byte hstep _ ih => rw [List.cons_append, decodeLossyFrom_cons hstep, ih, List.append_assoc]

end Reads

/-- What the strict reader reads are the bytes that end between two characters. -/
theorem decodeFrom_eq_some_iff : decodeFrom s bs = some cs ↔ Reads s bs cs .start := by
  constructor
  · intro h
    induction bs generalizing s cs with
    | nil =>
      cases s with
      | start =>
        cases h
        exact .done
      | inside => cases h
    | cons b bs ih =>
      obtain ⟨t, c, rest, hstep, hrest, rfl⟩ := decodeFrom_cons_eq_some_iff.1 h
      exact .byte hstep (ih hrest)
  · intro h
    generalize hend : State.start = last at h
    induction h with
    | done =>
      subst hend
      rfl
    | byte hstep _ ih => exact decodeFrom_cons_eq_some_iff.2 ⟨_, _, _, hstep, ih hend, rfl⟩

end GuidedShell.Utf8
