import GuidedShell.CommandIndex
import Mathlib.Data.List.Pairwise

/-! The names of an index are put into ascending order, and a search by halving finds each of them
there. -/
namespace GuidedShell.CommandIndex

theorem ascending_insertName (n : String) {names : List String} (h : names.Pairwise (· < ·)) :
    (insertName n names).Pairwise (· < ·) := by
  induction names with
  | nil => exact List.pairwise_singleton _ n
  | cons m ms ih =>
    obtain ⟨hfirst, hrest⟩ := List.pairwise_cons.1 h
    unfold insertName
    split
    · rename_i hlt
      refine List.pairwise_cons.2 ⟨fun x hx => ?_, h⟩
      rcases List.mem_cons.1 hx with rfl | hx
      · exact hlt
      · exact String.lt_trans hlt (hfirst x hx)
    · rename_i hle
      split
      · exact h
      · rename_i hne
        have hlt : m < n := (Std.lt_trichotomy n m).resolve_left hle |>.resolve_left hne
        refine List.pairwise_cons.2 ⟨fun x hx => ?_, ih hrest⟩
        rcases mem_insertName.1 hx with rfl | hx
        · exact hlt
        · exact hfirst x hx

theorem ascending_insertAll {names : List String} (h : names.Pairwise (· < ·))
    (found : List String) : (insertAll names found).Pairwise (· < ·) := by
  unfold insertAll
  induction found generalizing names with
  | nil => exact h
  | cons n ns ih => exact ih (ascending_insertName n h)

variable {n : String} {names : List String}

theorem lt_of_mem_take (h : names.Pairwise (· < ·)) {i : Nat} (hi : i < names.length)
    (hn : n ∈ names.take i) : n < names[i] := by
  obtain ⟨k, hk, rfl⟩ := List.mem_take_iff_getElem.1 hn
  exact List.pairwise_iff_getElem.1 h k i (by omega) hi (by omega)

theorem not_lt_of_mem_drop (h : names.Pairwise (· < ·)) {i : Nat} (hi : i < names.length)
    (hn : n ∈ names.drop i) : ¬n < names[i] := by
  obtain ⟨k, hk, rfl⟩ := List.mem_drop_iff_getElem.1 hn
  rcases Nat.eq_zero_or_pos k with rfl | hpos
  · exact String.lt_irrefl _
  · have hlt : names[i] < names[i + k] :=
      List.pairwise_iff_getElem.1 h i (i + k) hi (by omega) (by omega)
    exact fun hgt => String.lt_irrefl _ (String.lt_trans hlt hgt)

theorem mem_take_or_mem_drop (i : Nat) : n ∈ names.take i ∨ n ∈ names.drop i ↔ n ∈ names := by
  rw [← List.mem_append, List.take_append_drop]

/-- Of the two halves of an ascending list, the search goes on in the one that can have the name. -/
theorem bisect_iff_mem (h : names.Pairwise (· < ·)) : bisect n names ↔ n ∈ names := by
  induction names using bisect.induct n with
  | case1 names hshort =>
    rw [bisect, dif_pos hshort]
    match names with
    | [] => simp
    | [m] => simpa using eq_comm
  | case2 names hlong middle hlt ih =>
    have hmiddle : middle < names.length := by omega
    have hnot : n ∉ names.drop middle := fun hn => not_lt_of_mem_drop h hmiddle hn hlt
    rw [bisect, dif_neg hlong, if_pos hlt, ih (h.sublist (List.take_sublist _ _))]
    exact (or_iff_left hnot).symm.trans (mem_take_or_mem_drop middle)
  | case3 names hlong middle hge ih =>
    have hmiddle : middle < names.length := by omega
    have hnot : n ∉ names.take middle := fun hn => hge (lt_of_mem_take h hmiddle hn)
    rw [bisect, dif_neg hlong, if_neg hge, ih (h.sublist (List.drop_sublist _ _))]
    exact (or_iff_right hnot).symm.trans (mem_take_or_mem_drop middle)

end GuidedShell.CommandIndex
