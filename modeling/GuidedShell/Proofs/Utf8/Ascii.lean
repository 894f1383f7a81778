import GuidedShell.Proofs.Text.Pieces
import GuidedShell.Proofs.Utf8.LineFeed
import GuidedShell.Proofs.Utf8.Spelling

/-! ASCII in bytes that are read lossily. Whatever is broken around it, a byte below 128 is a
character of its own, and no other bytes give that character. So the bytes can be cut there before
or after they are read. -/
namespace GuidedShell.Utf8

variable {s t : State} {b : UInt8} {c : Char} {bs : Bytes}

/-- What is kept while bytes are read: only bytes beyond ASCII go on with a character, and those
taken so far come first in it. -/
structure State.Sound (s : State) : Prop where
  long : s.Long
  holds : ∃ front, s.Holds front

theorem sound_start : State.start.Sound := ⟨trivial, [], rfl⟩

/-- A step ends a character just if it leads between two of them. -/
theorem isSome_iff_of_step {c : Option Char} (h : s.step b = some (t, c)) :
    c.isSome ↔ t = .start := by
  cases s with
  | start =>
    by_cases hb : b.toNat < 0x80
    · rw [step_start_ascii hb] at h
      cases h
      exact iff_of_true rfl rfl
    · rw [step_start_lead (by omega)] at h
      obtain ⟨lead, hlead, heq⟩ := Option.map_eq_some_iff.1 h
      cases heq
      refine iff_of_false (by simp) ?_
      rintro rfl
      exact List.cons_ne_nil b [] (holds_lead hlead)
  | inside more bits low high =>
    simp only [State.step] at h
    split at h
    · cases more with
      | zero =>
        obtain ⟨rfl, rfl⟩ := Prod.mk.inj (Option.some.inj h)
        exact iff_of_true rfl rfl
      | succ more =>
        obtain ⟨rfl, rfl⟩ := Prod.mk.inj (Option.some.inj h)
        exact iff_of_false (by simp) fun hstart => State.noConfusion hstart
    · cases h

namespace State.Sound

theorem step {c : Option Char} (h : s.Sound) (hs : s.step b = some (t, c)) : t.Sound := by
  obtain ⟨front, hfront⟩ := h.holds
  obtain ⟨rest, hrest, -⟩ := holds_step hfront hs
  exact ⟨(long_step h.long hs).1, rest, hrest⟩

/-- A character that ends with a byte beyond ASCII is spelled with that byte. -/
theorem le_of_step (h : s.Sound) (hb : 0x80 ≤ b.toNat) (hs : s.step b = some (t, some c)) :
    0x80 ≤ c.toNat := by
  obtain ⟨front, hfront⟩ := h.holds
  obtain ⟨rest, hrest, hspelled⟩ := holds_step hfront hs
  have hnone : rest = [] := by
    rw [(isSome_iff_of_step hs).1 rfl] at hrest
    exact hrest
  have hmem : b ∈ encodeChar c := by
    have hlast : b ∈ front ++ [b] := List.mem_append_right front List.mem_cons_self
    rw [← hspelled, hnone] at hlast
    simpa [encode] using hlast
  by_contra hc
  have hchar : encodeChar c = [UInt8.ofNat c.toNat] := if_pos (by omega)
  rw [hchar, List.mem_singleton] at hmem
  rw [hmem, toNat_firstByte (by omega)] at hb
  exact hc hb

/-- A byte of ASCII breaks off what has begun, and stands for itself. -/
theorem advance_of_lt (h : s.Sound) (hb : b.toNat < 0x80) :
    s.advance b = (s.finish ++ [Char.ofNat b.toNat], .start) := by
  have hfirst := step_start_ascii hb
  cases s with
  | start => simp only [State.advance, hfirst, State.finish, Option.toList_some, List.nil_append]
  | inside more bits low high =>
    have hlow : ¬low ≤ b := fun hle => by
      have hle : low.toNat ≤ b.toNat := UInt8.le_iff_toNat_le.1 hle
      have hlong : 0x80 ≤ low.toNat := h.long.1
      omega
    have hnone : (State.inside more bits low high).step b = none := if_neg fun hin => hlow hin.1
    simp only [State.advance, hnone, hfirst, State.finish, Option.toList_some,
      List.singleton_append]

/-- A byte beyond ASCII gives no character of ASCII. -/
theorem advance_of_le (h : s.Sound) (hb : 0x80 ≤ b.toNat) :
    (s.advance b).2.Sound ∧ ∀ c ∈ (s.advance b).1, 0x80 ≤ c.toNat := by
  have hreplaced : 0x80 ≤ replacement.toNat := by decide
  have hstep {s t : State} {c : Option Char} (h : s.Sound) (hs : s.step b = some (t, c)) :
      t.Sound ∧ ∀ d ∈ c.toList, 0x80 ≤ d.toNat :=
    ⟨h.step hs, fun d hd => h.le_of_step hb (by rwa [Option.mem_toList.1 hd] at hs)⟩
  unfold State.advance
  cases hs : s.step b with
  | some next => exact hstep h hs
  | none =>
    cases s with
    | start => exact ⟨sound_start, by simpa using hreplaced⟩
    | inside more bits low high =>
      cases hfirst : State.start.step b with
      | none => exact ⟨sound_start, by simpa using hreplaced⟩
      | some next =>
        obtain ⟨hsound, hall⟩ := hstep sound_start hfirst
        exact ⟨hsound, List.forall_mem_cons.2 ⟨hreplaced, hall⟩⟩

theorem advance (h : s.Sound) (b : UInt8) : (s.advance b).2.Sound := by
  by_cases hb : b.toNat < 0x80
  · rw [h.advance_of_lt hb]
    exact sound_start
  · exact (h.advance_of_le (by omega)).1

end State.Sound

theorem le_of_mem_finish (h : c ∈ s.finish) : 0x80 ≤ c.toNat := by
  cases s with
  | start => cases h
  | inside =>
    rw [List.mem_singleton.1 h]
    decide

theorem decodeLossyFrom_cons_eq (s : State) (b : UInt8) (bs : Bytes) :
    decodeLossyFrom s (b :: bs) = (s.advance b).1 ++ decodeLossyFrom (s.advance b).2 bs := rfl

/-- Reading starts afresh after a byte of ASCII. -/
theorem decodeLossyFrom_append_cons (h : s.Sound) (hb : b.toNat < 0x80) (front back : Bytes) :
    decodeLossyFrom s (front ++ b :: back) =
      decodeLossyFrom s front ++ Char.ofNat b.toNat :: decodeLossy back := by
  induction front generalizing s with
  | nil =>
    rw [List.nil_append, decodeLossyFrom_cons_eq, h.advance_of_lt hb, List.append_assoc]
    rfl
  | cons d front ih =>
    rw [List.cons_append, decodeLossyFrom_cons_eq, ih (h.advance d), decodeLossyFrom_cons_eq,
      List.append_assoc]

theorem decodeLossy_append_cons (hb : b.toNat < 0x80) (front back : Bytes) :
    decodeLossy (front ++ b :: back) =
      decodeLossy front ++ Char.ofNat b.toNat :: decodeLossy back :=
  decodeLossyFrom_append_cons sound_start hb front back

/-- A list that does not have the element leaves it, and what is around it, to the other list. -/
theorem append_eq_append_cons {α : Type} {xs ys front back : List α} {x : α} (hx : x ∉ xs)
    (h : xs ++ ys = front ++ x :: back) : ∃ rest, front = xs ++ rest ∧ ys = rest ++ x :: back := by
  rcases List.append_eq_append_iff.1 h with ⟨rest, hfront, hys⟩ | ⟨rest, hxs, hback⟩
  · exact ⟨rest, hfront, hys⟩
  · cases rest with
    | nil => exact ⟨[], by rw [hxs, List.append_nil, List.append_nil], hback.symm⟩
    | cons y rest =>
      obtain ⟨rfl, -⟩ := List.cons.inj hback
      refine absurd ?_ hx
      rw [hxs]
      exact List.mem_append_right front List.mem_cons_self

theorem toNat_byte (hc : c.toNat < 0x80) : (UInt8.ofNat c.toNat).toNat = c.toNat :=
  toNat_firstByte (by omega)

/-- A character of ASCII has been read from its byte, and the text is cut there as the bytes are. -/
theorem eq_append_of_decodeLossyFrom {cs ds : List Char} (h : s.Sound) (hc : c.toNat < 0x80)
    (heq : decodeLossyFrom s bs = cs ++ c :: ds) :
    ∃ front back, bs = front ++ UInt8.ofNat c.toNat :: back ∧ decodeLossyFrom s front = cs ∧
      decodeLossy back = ds := by
  induction bs generalizing s cs with
  | nil =>
    have hmem : c ∈ s.finish := by
      have hfinish : s.finish = cs ++ c :: ds := heq
      rw [hfinish]
      exact List.mem_append_right cs List.mem_cons_self
    have hle := le_of_mem_finish hmem
    omega
  | cons b bs ih =>
    rw [decodeLossyFrom_cons_eq] at heq
    by_cases hb : b.toNat < 0x80
    · have hadvance := h.advance_of_lt hb
      have hfinish : c ∉ s.finish := fun hmem => by
        have hle := le_of_mem_finish hmem
        omega
      rw [hadvance, List.append_assoc] at heq
      obtain ⟨rest, rfl, hrest⟩ := append_eq_append_cons hfinish heq
      cases rest with
      | nil =>
        -- The byte is the one that the character was read from.
        obtain ⟨hchar, hback⟩ := List.cons.inj hrest
        refine ⟨[], bs, ?_, (List.append_nil _).symm, hback⟩
        rw [← hchar, toNat_ofNat_of_valid (by omega), UInt8.ofNat_toNat]
        rfl
      | cons d rest =>
        obtain ⟨hchar, hlater⟩ := List.cons.inj hrest
        obtain ⟨front, back, rfl, hfront, hback⟩ := ih sound_start hlater
        refine ⟨b :: front, back, rfl, ?_, hback⟩
        rw [decodeLossyFrom_cons_eq, hadvance, hfront, ← hchar, List.append_assoc]
        rfl
    · obtain ⟨hsound, hbeyond⟩ := h.advance_of_le (b := b) (by omega)
      have hnone : c ∉ (s.advance b).1 := fun hmem => by
        have hle := hbeyond c hmem
        omega
      obtain ⟨rest, rfl, hrest⟩ := append_eq_append_cons hnone heq
      obtain ⟨front, back, rfl, hfront, hback⟩ := ih hsound hrest
      exact ⟨b :: front, back, rfl, by rw [decodeLossyFrom_cons_eq, hfront], hback⟩

theorem decodeLossy_eq_append_cons_iff {cs ds : List Char} (hc : c.toNat < 0x80) :
    decodeLossy bs = cs ++ c :: ds ↔ ∃ front back, bs = front ++ UInt8.ofNat c.toNat :: back ∧
      decodeLossy front = cs ∧ decodeLossy back = ds := by
  constructor
  · exact eq_append_of_decodeLossyFrom sound_start hc
  · rintro ⟨front, back, rfl, rfl, rfl⟩
    have hb : (UInt8.ofNat c.toNat).toNat < 0x80 := by rwa [toNat_byte hc]
    rw [decodeLossy_append_cons hb, toNat_byte hc, Char.ofNat_toNat]

theorem mem_decodeLossy_iff (hc : c.toNat < 0x80) :
    c ∈ decodeLossy bs ↔ UInt8.ofNat c.toNat ∈ bs := by
  rw [List.mem_iff_append, List.mem_iff_append]
  constructor
  · rintro ⟨cs, ds, heq⟩
    obtain ⟨front, back, hbs, -, -⟩ := (decodeLossy_eq_append_cons_iff hc).1 heq
    exact ⟨front, back, hbs⟩
  · rintro ⟨front, back, hbs⟩
    exact ⟨_, _, (decodeLossy_eq_append_cons_iff hc).2 ⟨front, back, hbs, rfl, rfl⟩⟩

theorem pieces_decodeLossy_joinPieces (hc : c.toNat < 0x80) {ps : List Bytes} (hne : ps ≠ [])
    (h : ∀ p ∈ ps, UInt8.ofNat c.toNat ∉ p) :
    pieces (· == c) (decodeLossy (joinPieces [UInt8.ofNat c.toNat] ps)) = ps.map decodeLossy := by
  have hwhole (p : Bytes) (hp : UInt8.ofNat c.toNat ∉ p) :
      pieces (· == c) (decodeLossy p) = [decodeLossy p] := by
    refine pieces_of_forall fun d hd => ?_
    have hdc : d ≠ c := fun heq => hp ((mem_decodeLossy_iff hc).1 (heq ▸ hd))
    simpa using hdc
  have hb : (UInt8.ofNat c.toNat).toNat < 0x80 := by rwa [toNat_byte hc]
  induction ps with
  | nil => exact absurd rfl hne
  | cons p ps ih =>
    obtain ⟨hp, hps⟩ := List.forall_mem_cons.1 h
    cases ps with
    | nil => exact hwhole p hp
    | cons q ps =>
      have hjoin : joinPieces [UInt8.ofNat c.toNat] (p :: q :: ps) =
          p ++ UInt8.ofNat c.toNat :: joinPieces [UInt8.ofNat c.toNat] (q :: ps) := by
        rw [joinPieces, List.append_assoc, List.singleton_append]
      rw [hjoin, decodeLossy_append_cons hb, toNat_byte hc, Char.ofNat_toNat,
        pieces_append (by simp), hwhole p hp, ih (List.cons_ne_nil q ps) hps]
      rfl

/-- It is the same to read bytes and to cut the text at a character of ASCII, or to cut the bytes
and to read each piece for itself. -/
theorem pieces_decodeLossy (hc : c.toNat < 0x80) (bs : Bytes) :
    pieces (· == c) (decodeLossy bs) =
      (pieces (· == UInt8.ofNat c.toNat) bs).map decodeLossy := by
  have hpieces (p : Bytes) (hp : p ∈ pieces (· == UInt8.ofNat c.toNat) bs) :
      UInt8.ofNat c.toNat ∉ p := fun hmem => by
    simpa using not_sep_of_mem_pieces _ _ p hp _ hmem
  have hjoined := pieces_decodeLossy_joinPieces hc (pieces_ne_nil _ bs) hpieces
  rwa [joinPieces_pieces] at hjoined

/-! A text of ASCII stands in what is read just where its bytes stand. -/

/-- Where a byte gives no character, it has begun one. -/
theorem advance_ne_start (h : (s.advance b).1 = []) : (s.advance b).2 ≠ .start := by
  unfold State.advance at h ⊢
  cases hs : s.step b with
  | some next =>
    simp only [hs] at h ⊢
    intro ht
    have hsome := (isSome_iff_of_step hs).2 ht
    rw [Option.toList_eq_nil_iff.1 h] at hsome
    cases hsome
  | none =>
    simp only [hs] at h
    split at h
    · cases h
    · split at h
      · cases h
      · cases h

theorem decodeLossyFrom_ne_nil (h : s ≠ .start ∨ bs ≠ []) : decodeLossyFrom s bs ≠ [] := by
  induction bs generalizing s with
  | nil =>
    cases s with
    | start => simp at h
    | inside => exact List.cons_ne_nil _ _
  | cons b bs ih =>
    rw [decodeLossyFrom_cons_eq]
    by_cases hnone : (s.advance b).1 = []
    · exact List.append_ne_nil_of_right_ne_nil _ (ih (.inl (advance_ne_start hnone)))
    · exact List.append_ne_nil_of_left_ne_nil hnone _

theorem decodeLossy_eq_nil_iff : decodeLossy bs = [] ↔ bs = [] := by
  constructor
  · intro h
    by_contra hbs
    exact decodeLossyFrom_ne_nil (.inr hbs) h
  · rintro rfl
    rfl

/-- Every character is one of the first 128. -/
def IsAscii (cs : List Char) : Prop := ∀ c ∈ cs, c.toNat < 0x80

theorem encode_cons (hc : c.toNat < 0x80) (cs : List Char) :
    encode (c :: cs) = UInt8.ofNat c.toNat :: encode cs := by
  have hchar : encodeChar c = [UInt8.ofNat c.toNat] := if_pos hc
  rw [encode, List.flatMap_cons, hchar]
  rfl

theorem lt_of_mem_encode {cs : List Char} (h : IsAscii cs) (hb : b ∈ encode cs) :
    b.toNat < 0x80 := by
  induction cs with
  | nil => cases hb
  | cons c cs ih =>
    obtain ⟨hc, hcs⟩ := List.forall_mem_cons.1 h
    rw [encode_cons hc] at hb
    rcases List.mem_cons.1 hb with rfl | hb
    · rwa [toNat_byte hc]
    · exact ih hcs hb

theorem exists_encode_eq (h : ∀ b ∈ bs, b.toNat < 0x80) : ∃ cs, IsAscii cs ∧ encode cs = bs := by
  induction bs with
  | nil => exact ⟨[], List.forall_mem_nil _, rfl⟩
  | cons b bs ih =>
    obtain ⟨hb, hbs⟩ := List.forall_mem_cons.1 h
    obtain ⟨cs, hcs, rfl⟩ := ih hbs
    have hnumber : (Char.ofNat b.toNat).toNat = b.toNat := toNat_ofNat_of_valid (by omega)
    have hc : (Char.ofNat b.toNat).toNat < 0x80 := by rwa [hnumber]
    refine ⟨Char.ofNat b.toNat :: cs, List.forall_mem_cons.2 ⟨hc, hcs⟩, ?_⟩
    rw [encode_cons hc, hnumber, UInt8.ofNat_toNat]

theorem encode_inj {cs ds : List Char} (h : encode cs = encode ds) : cs = ds := by
  rw [← decodeLossy_encode cs, h, decodeLossy_encode]

theorem prefix_decodeLossy {cs ds : List Char} (h : IsAscii cs) (heq : decodeLossy bs = cs ++ ds) :
    encode cs <+: bs := by
  induction cs generalizing bs with
  | nil => exact List.nil_prefix
  | cons c cs ih =>
    obtain ⟨hc, hcs⟩ := List.forall_mem_cons.1 h
    have hfirst : decodeLossy bs = [] ++ c :: (cs ++ ds) := heq
    obtain ⟨front, back, rfl, hfront, hback⟩ := (decodeLossy_eq_append_cons_iff hc).1 hfirst
    obtain rfl := decodeLossy_eq_nil_iff.1 hfront
    rw [encode_cons hc, List.nil_append, List.cons_prefix_cons]
    exact ⟨rfl, ih hcs hback⟩

theorem infix_decodeLossy_iff {cs : List Char} (h : IsAscii cs) (hne : cs ≠ []) :
    cs <:+: decodeLossy bs ↔ encode cs <:+: bs := by
  obtain ⟨c, cs, rfl⟩ := List.exists_cons_of_ne_nil hne
  obtain ⟨hc, hcs⟩ := List.forall_mem_cons.1 h
  rw [encode_cons hc]
  constructor
  · rintro ⟨before, after, heq⟩
    rw [List.append_assoc] at heq
    obtain ⟨front, back, rfl, -, hback⟩ := (decodeLossy_eq_append_cons_iff hc).1 heq.symm
    obtain ⟨rest, rfl⟩ := prefix_decodeLossy hcs hback
    exact ⟨front, rest, by simp⟩
  · rintro ⟨front, back, rfl⟩
    have hread : decodeLossy (encode cs ++ back) = cs ++ decodeLossy back :=
      (reads_encode cs).decodeLossyFrom_append back
    have hcut := (decodeLossy_eq_append_cons_iff hc).2
      ⟨front, encode cs ++ back, rfl, rfl, hread⟩
    refine ⟨decodeLossy front, decodeLossy back, ?_⟩
    simpa using hcut.symm

end GuidedShell.Utf8
