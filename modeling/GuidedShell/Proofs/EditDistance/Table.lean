import GuidedShell.Strict.Table
import Mathlib.Data.List.Induction

/-! The table of distances, from its rows to its last cell. Two rows that are written in turn are
enough for it, and no cell outside them is read or written. -/
namespace GuidedShell

namespace EditDistance

variable {α : Type} [DecidableEq α]

/-! How the table grows: by a cell at the end of every row, and by a row at the end. -/

theorem cells_concat (x y : α) (corner left up : Nat) {above : List Nat} {ys : List α}
    (h : above.length = ys.length) :
    cells x corner left (above ++ [up]) (ys ++ [y]) =
      cells x corner left above ys ++
        [min (min (up + 1) ((cells x corner left above ys).getLastD left + 1))
          (above.getLastD corner + if x = y then 0 else 1)] := by
  induction ys generalizing corner left above with
  | nil =>
    obtain rfl := List.length_eq_zero_iff.1 h
    simp [cells]
  | cons z zs ih =>
    cases above with
    | nil => cases h
    | cons a as => simp [cells, ih _ _ (Nat.succ.inj h), List.getLast?_cons]

theorem nextRow_concat (x y : α) (up : Nat) {row : List Nat} {ys : List α}
    (h : row.length = ys.length + 1) :
    nextRow (ys ++ [y]) (row ++ [up]) x =
      nextRow ys row x ++
        [min (min (up + 1) ((nextRow ys row x).getLastD 0 + 1))
          (row.getLastD 0 + if x = y then 0 else 1)] := by
  cases row with
  | nil => cases h
  | cons first rest =>
    simp [nextRow, cells_concat x y _ _ _ (Nat.succ.inj h), List.getLast?_cons]

theorem lastRow_concat_left (xs ys : List α) (x : α) :
    lastRow (xs ++ [x]) ys = nextRow ys (lastRow xs ys) x := by
  simp [lastRow]

/-- The row for a text is part of the row for any text that goes on from it. -/
theorem lastRow_concat_right (xs ys : List α) (y : α) :
    lastRow xs (ys ++ [y]) = lastRow xs ys ++ [distance xs (ys ++ [y])] := by
  suffices h : ∃ last, lastRow xs (ys ++ [y]) = lastRow xs ys ++ [last] by
    obtain ⟨last, hlast⟩ := h
    simp [distance, hlast]
  induction xs using List.reverseRecOn with
  | nil => exact ⟨ys.length + 1, by simp [lastRow, List.range_succ]⟩
  | append_singleton xs x ih =>
    obtain ⟨last, hlast⟩ := ih
    rw [lastRow_concat_left, lastRow_concat_left, hlast,
      nextRow_concat x y _ (length_lastRow xs ys)]
    exact ⟨_, rfl⟩

theorem lastRow_nil_right (xs : List α) : lastRow xs [] = [xs.length] := by
  induction xs using List.reverseRecOn with
  | nil => rfl
  | append_singleton xs x ih =>
    rw [lastRow_concat_left, ih]
    simp [nextRow, cells]

/-! The three equations of the distance. -/

@[simp] theorem distance_nil_left (ys : List α) : distance [] ys = ys.length := by
  simp [distance, lastRow, List.range_succ]

@[simp] theorem distance_nil_right (xs : List α) : distance xs [] = xs.length := by
  simp [distance, lastRow_nil_right]

theorem distance_concat_concat (xs ys : List α) (x y : α) :
    distance (xs ++ [x]) (ys ++ [y]) =
      min (min (distance xs (ys ++ [y]) + 1) (distance (xs ++ [x]) ys + 1))
        (distance xs ys + if x = y then 0 else 1) := by
  have hrow := nextRow_concat x y (distance xs (ys ++ [y])) (length_lastRow xs ys)
  rw [← lastRow_concat_right, ← lastRow_concat_left, ← lastRow_concat_left] at hrow
  unfold distance at hrow ⊢
  rw [hrow, List.getLastD_concat]

theorem distance_self (xs : List α) : distance xs xs = 0 := by
  induction xs using List.reverseRecOn with
  | nil => rfl
  | append_singleton xs x ih => simp [distance_concat_concat, ih]

end EditDistance

namespace Strict

open EditDistance

@[simp] theorem difference?_succ_one (n : Nat) : difference? (n + 1) 1 = some n := by
  simp [difference?]

variable {α : Type} [DecidableEq α] {us xs ys : List α}

/-- The first `n` cells of the row are the distances between `us` and the starts of `ys`. What the
others hold is left open. -/
structure Starts (us ys : List α) (n : Nat) (row : List Nat) : Prop where
  length : row.length = ys.length + 1
  cell : ∀ j < n, row[j]? = some (distance us (ys.take j))

theorem Starts.put {n : Nat} {row : List Nat} (h : Starts us ys n row) (hn : n ≤ ys.length) :
    ∃ row', put? row n (distance us (ys.take n)) = some row' ∧ Starts us ys (n + 1) row' := by
  have hin : n < row.length := by
    rw [h.length]
    omega
  refine ⟨_, if_pos hin, ?_, ?_⟩
  · rw [List.length_set, h.length]
  · intro j hj
    rcases Nat.lt_succ_iff_lt_or_eq.1 hj with hj | rfl
    · rw [List.getElem?_set_ne (Nat.ne_of_gt hj), h.cell j hj]
    · exact List.getElem?_set_self hin

theorem putCell?_eq_some {i j : Nat} {last row : List Nat} (hi : i < xs.length)
    (hj : j < ys.length) (hlast : Starts (xs.take i) ys (ys.length + 1) last)
    (hrow : Starts (xs.take (i + 1)) ys (j + 1) row) :
    ∃ row', putCell? xs ys last (i + 1) row (j + 1) = some row' ∧
      Starts (xs.take (i + 1)) ys (j + 1 + 1) row' := by
  have hup := hlast.cell (j + 1) (by omega)
  have hcorner := hlast.cell j (by omega)
  have hleft := hrow.cell j (by omega)
  obtain ⟨row', hput, hrow'⟩ := hrow.put hj
  refine ⟨row', ?_, hrow'⟩
  rw [← List.take_append_getElem hi, ← List.take_append_getElem hj, distance_concat_concat,
    List.take_append_getElem hi, List.take_append_getElem hj] at hput
  simp only [putCell?, difference?_succ_one, List.getElem?_eq_getElem hi,
    List.getElem?_eq_getElem hj, hup, hcorner, hleft, Option.bind_eq_bind, Option.bind_some]
  exact hput

/-- Whatever is left in the free row is written over before it is read. -/
theorem putRow?_eq_some {i : Nat} {rows : Rows} (hi : i < xs.length)
    (hlast : Starts (xs.take i) ys (ys.length + 1) rows.last)
    (hfree : rows.free.length = ys.length + 1) :
    ∃ row, putRow? xs ys rows (i + 1) = some ⟨row, rows.last⟩ ∧
      Starts (xs.take (i + 1)) ys (ys.length + 1) row := by
  have hstart : Starts (xs.take (i + 1)) ys 0 rows.free := ⟨hfree, fun j hj => by omega⟩
  obtain ⟨first, hput, hfirst⟩ := hstart.put (Nat.zero_le _)
  have hzero : distance (xs.take (i + 1)) (ys.take 0) = i + 1 := by
    rw [List.take_zero, distance_nil_right, List.length_take]
    omega
  rw [hzero] at hput
  -- Only the cells that were written in this row count, not what `free` has behind them.
  have hcells (n : Nat) (hn : n ≤ ys.length) :
      ∃ row, (List.range' 1 n).foldlM (putCell? xs ys rows.last (i + 1)) first = some row ∧
        Starts (xs.take (i + 1)) ys (n + 1) row := by
    induction n with
    | zero => exact ⟨first, rfl, hfirst⟩
    | succ n ih =>
      obtain ⟨row, hrun, hrow⟩ := ih (by omega)
      obtain ⟨row', hcell, hrow'⟩ := putCell?_eq_some hi hn hlast hrow
      refine ⟨row', ?_, hrow'⟩
      rw [List.range'_1_concat, List.foldlM_append, hrun, Nat.add_comm 1 n]
      simpa using hcell
  obtain ⟨row, hrun, hrow⟩ := hcells ys.length (Nat.le_refl _)
  refine ⟨row, ?_, hrow⟩
  simp [putRow?, hput, hrun]

/-- After any number of characters both rows have a cell for each start of `ys`, and the last one
holds their distances. -/
theorem rows?_eq_some (xs ys : List α) {n : Nat} (hn : n ≤ xs.length) :
    ∃ rows, rows? xs ys n = some rows ∧ Starts (xs.take n) ys (ys.length + 1) rows.last ∧
      rows.free.length = ys.length + 1 := by
  induction n with
  | zero =>
    refine ⟨_, rfl, ⟨List.length_range, fun j hj => ?_⟩, List.length_replicate⟩
    rw [List.getElem?_range hj, List.take_zero, distance_nil_left, List.length_take]
    congr 1
    omega
  | succ n ih =>
    obtain ⟨rows, hrun, hlast, hfree⟩ := ih (by omega)
    obtain ⟨row, hput, hrow⟩ := putRow?_eq_some hn hlast hfree
    refine ⟨⟨row, rows.last⟩, ?_, hrow, hlast.length⟩
    unfold rows? at hrun ⊢
    rw [List.range'_1_concat, List.foldlM_append, hrun, Nat.add_comm 1 n]
    simpa using hput

theorem distance?_eq_some (xs ys : List α) : distance? xs ys = some (distance xs ys) := by
  obtain ⟨rows, hrun, hlast, -⟩ := rows?_eq_some xs ys (Nat.le_refl xs.length)
  have hcell := hlast.cell ys.length (by omega)
  rw [List.take_length, List.take_length] at hcell
  simp [distance?, hrun, hcell]

end Strict

end GuidedShell
