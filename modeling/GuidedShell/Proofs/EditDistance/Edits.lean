import GuidedShell.Correction
import GuidedShell.Proofs.EditDistance.Table
import Mathlib.Order.Bounds.Basic
import Mathlib.Order.MinMax

/-! The distance of two texts is the least number of edits that lead from one to the other. -/
namespace GuidedShell

namespace EditDistance

variable {α : Type}

/-- One text comes from the other by inserting, deleting or substituting a single character,
anywhere. -/
inductive Edit : List α → List α → Prop
  | insert (front back : List α) (x : α) : Edit (front ++ back) (front ++ x :: back)
  | delete (front back : List α) (x : α) : Edit (front ++ x :: back) (front ++ back)
  | substitute (front back : List α) (x y : α) : Edit (front ++ x :: back) (front ++ y :: back)

/-- One text comes from the other by so many edits, one after another. -/
inductive Edits : Nat → List α → List α → Prop
  | none (xs : List α) : Edits 0 xs xs
  | more {n : Nat} {xs ys zs : List α} (first : Edit xs ys) (rest : Edits n ys zs) :
    Edits (n + 1) xs zs

theorem Edit.append {xs ys : List α} (h : Edit xs ys) (more : List α) :
    Edit (xs ++ more) (ys ++ more) := by
  cases h with
  | insert front back x => simpa using Edit.insert front (back ++ more) x
  | delete front back x => simpa using Edit.delete front (back ++ more) x
  | substitute front back x y => simpa using Edit.substitute front (back ++ more) x y

namespace Edits

theorem append {n : Nat} {xs ys : List α} (h : Edits n xs ys) (more : List α) :
    Edits n (xs ++ more) (ys ++ more) := by
  induction h with
  | none xs => exact .none _
  | more first _ ih => exact .more (first.append more) ih

theorem concat {n : Nat} {xs ys zs : List α} (h : Edits n xs ys) (last : Edit ys zs) :
    Edits (n + 1) xs zs := by
  induction h with
  | none xs => exact .more last (.none _)
  | more first _ ih => exact .more first (ih last)

end Edits

variable [DecidableEq α]

/-! A single character more or less moves a text by one at most. -/

theorem distance_concat_left_le (xs ys : List α) (x : α) :
    distance (xs ++ [x]) ys ≤ distance xs ys + 1 := by
  rcases List.eq_nil_or_concat ys with rfl | ⟨ys, y, rfl⟩
  · simp
  · rw [List.concat_eq_append, distance_concat_concat]
    omega

theorem distance_concat_right_le (xs ys : List α) (y : α) :
    distance xs (ys ++ [y]) ≤ distance xs ys + 1 := by
  rcases List.eq_nil_or_concat xs with rfl | ⟨xs, x, rfl⟩
  · simp
  · rw [List.concat_eq_append, distance_concat_concat]
    omega

theorem distance_le_concat_left (xs ys : List α) (x : α) :
    distance xs ys ≤ distance (xs ++ [x]) ys + 1 := by
  induction ys using List.reverseRecOn with
  | nil =>
    simp only [distance_nil_right, List.length_append]
    omega
  | append_singleton ys y ih =>
    have hright := distance_concat_right_le xs ys y
    rw [distance_concat_concat]
    omega

theorem distance_concat_left_le_of_ne (xs ys : List α) (x x' : α) :
    distance (xs ++ [x]) ys ≤ distance (xs ++ [x']) ys + 1 := by
  induction ys using List.reverseRecOn with
  | nil => simp
  | append_singleton ys y ih =>
    rw [distance_concat_concat, distance_concat_concat xs ys x' y]
    split <;> omega

/-- What stands behind a change does not make it cost more. -/
theorem distance_append_left_le {xs xs' : List α}
    (h : ∀ ys, distance xs ys ≤ distance xs' ys + 1) (back ys : List α) :
    distance (xs ++ back) ys ≤ distance (xs' ++ back) ys + 1 := by
  induction back using List.reverseRecOn generalizing ys with
  | nil => simpa using h ys
  | append_singleton back c ih =>
    rw [← List.append_assoc, ← List.append_assoc]
    -- The three ways into a cell of the last row: two come from `ih`, the one along the row from the
    -- induction on `ys`.
    induction ys using List.reverseRecOn with
    | nil =>
      have hnil := ih []
      simp only [distance_nil_right, List.length_append] at hnil ⊢
      omega
    | append_singleton ys y ihys =>
      have hdelete := ih (ys ++ [y])
      have hkeep := ih ys
      rw [distance_concat_concat, distance_concat_concat (xs' ++ back) ys c y]
      omega

theorem distance_le_of_edit {xs xs' : List α} (h : Edit xs xs') (ys : List α) :
    distance xs ys ≤ distance xs' ys + 1 := by
  cases h with
  | insert front back x =>
    have h := distance_append_left_le (fun ys => distance_le_concat_left front ys x) back ys
    simpa using h
  | delete front back x =>
    have h := distance_append_left_le (fun ys => distance_concat_left_le front ys x) back ys
    simpa using h
  | substitute front back x x' =>
    have h := distance_append_left_le
      (fun ys => distance_concat_left_le_of_ne front ys x x') back ys
    simpa using h

theorem distance_le_of_edits {n : Nat} {xs ys : List α} (h : Edits n xs ys) :
    distance xs ys ≤ n := by
  induction h with
  | none xs => rw [distance_self]
  | more first _ ih => exact (distance_le_of_edit first _).trans (Nat.succ_le_succ ih)

/-- Going back through the table from its last cell gives the edits. -/
theorem edits_distance (xs ys : List α) : Edits (distance xs ys) xs ys := by
  induction xs using List.reverseRecOn generalizing ys with
  | nil =>
    induction ys using List.reverseRecOn with
    | nil => exact .none []
    | append_singleton ys y ih =>
      have hinsert := Edit.insert ys [] y
      simp only [distance_nil_left, List.length_append, List.append_nil] at ih hinsert ⊢
      exact ih.concat hinsert
  | append_singleton xs x ih =>
    have hdelete := Edit.delete xs [] x
    rw [List.append_nil] at hdelete
    induction ys using List.reverseRecOn with
    | nil =>
      have h := Edits.more hdelete (ih [])
      simpa using h
    | append_singleton ys y ihys =>
      have hinsert := Edit.insert ys [] y
      rw [List.append_nil] at hinsert
      rw [distance_concat_concat]
      -- The cell comes from the one above it, from the one on its left or from the corner.
      rcases min_choice (min (distance xs (ys ++ [y]) + 1) (distance (xs ++ [x]) ys + 1))
        (distance xs ys + if x = y then 0 else 1) with hmin | hmin
      · rcases min_choice (distance xs (ys ++ [y]) + 1) (distance (xs ++ [x]) ys + 1) with h | h
        · rw [hmin, h]
          exact .more hdelete (ih (ys ++ [y]))
        · rw [hmin, h]
          exact ihys.concat hinsert
      · have hkeep := (ih ys).append [x]
        rw [hmin]
        split
        · rename_i hxy
          rw [← hxy]
          exact hkeep
        · exact hkeep.concat (.substitute ys [] x y)

end EditDistance

namespace Correction

/-- The distance of two texts is the least number of characters that have to be inserted, deleted
or substituted, one after another and in any order, to make one into the other. Two rows that change
places are enough to find it. -/
theorem distance_isLeast (typo name : String) :
    IsLeast {n | EditDistance.Edits n typo.toList name.toList} (distance typo name) ∧
      Strict.distance? typo.toList name.toList = some (distance typo name) := by
  refine ⟨⟨EditDistance.edits_distance _ _, ?_⟩, Strict.distance?_eq_some _ _⟩
  intro n hedits
  exact EditDistance.distance_le_of_edits hedits

/-- Two exchanged letters are two edits away from each other. -/
example : distance "gti" "git" = 2 := by decide

end Correction

end GuidedShell
