import GuidedShell.History.Basic

/-! The cursor of a history walks over its entries and the blank line after them. -/
namespace GuidedShell.History

/-- A step of the cursor, to an older entry or to a newer one. -/
inductive Stride where
  | back | forward
  deriving DecidableEq

def stride (h : History) : Stride → History
  | .back => h.back
  | .forward => h.forward

def walk (h : History) (strides : List Stride) : History := strides.foldl stride h

variable {h : History}

@[simp] theorem walk_nil (h : History) : h.walk [] = h := rfl

@[simp] theorem walk_cons (h : History) (d : Stride) (ds : List Stride) :
    h.walk (d :: ds) = (h.stride d).walk ds := rfl

theorem walk_concat (h : History) (ds : List Stride) (d : Stride) :
    h.walk (ds ++ [d]) = (h.walk ds).stride d := by
  simp [walk]

@[simp] theorem entries_stride (h : History) (d : Stride) : (h.stride d).entries = h.entries := by
  cases d with
  | back => exact h.entries_back
  | forward => exact h.entries_forward

@[simp] theorem entries_walk (h : History) (ds : List Stride) : (h.walk ds).entries = h.entries := by
  induction ds generalizing h with
  | nil => rfl
  | cons d ds ih => rw [walk_cons, ih, entries_stride]

@[simp] theorem cursor_back (h : History) : h.back.cursor = h.cursor - 1 := rfl

theorem cursor_forward (hc : h.cursor ≤ h.entries.length) :
    h.forward.cursor = min (h.cursor + 1) h.entries.length := by
  unfold forward
  split
  · dsimp only
    omega
  · omega

theorem back_of_oldest (hc : h.cursor = 0) : h.back = h := by
  have hcursor : h.cursor - 1 = h.cursor := by omega
  simp [back, hcursor]

theorem forward_of_blank (hc : h.cursor = h.entries.length) : h.forward = h := by
  have hend : ¬h.cursor < h.entries.length := by omega
  simp [forward, hend]

theorem forward_back (hpos : 0 < h.cursor) (hc : h.cursor ≤ h.entries.length) :
    h.back.forward = h := by
  have hroom : h.cursor - 1 < h.entries.length := by omega
  have hcursor : h.cursor - 1 + 1 = h.cursor := by omega
  simp [back, forward, hroom, hcursor]

theorem back_forward (hc : h.cursor < h.entries.length) : h.forward.back = h := by
  simp [back, forward, hc]

theorem cursor_walk_back (h : History) (k : Nat) :
    (h.walk (List.replicate k .back)).cursor = h.cursor - k := by
  induction k generalizing h with
  | zero => rfl
  | succ k ih =>
    rw [List.replicate_succ, walk_cons, ih, stride, cursor_back]
    omega

theorem getElem?_current (hc : h.cursor < h.entries.length) :
    h.entries[h.cursor]? = some h.current := by
  simp [current, hc]

theorem current_of_blank (hc : h.cursor = h.entries.length) : h.current = "" := by
  simp [current, hc]

/-- Steps back from the blank line come to the entries from the newest on, and stay at the oldest. -/
theorem getElem?_walk_back (hend : h.cursor = h.entries.length) {k : Nat} (hk : 0 < k)
    (hne : 0 < h.entries.length) :
    h.entries[h.entries.length - k]? = some (h.walk (List.replicate k .back)).current := by
  have hcursor := cursor_walk_back h k
  rw [hend] at hcursor
  have hlt : (h.walk (List.replicate k .back)).cursor <
      (h.walk (List.replicate k .back)).entries.length := by
    rw [hcursor, entries_walk]
    omega
  have hentry := getElem?_current hlt
  rwa [hcursor, entries_walk] at hentry

theorem current_walk_of_empty (hend : h.cursor = h.entries.length) (hempty : h.entries.length = 0)
    (k : Nat) : (h.walk (List.replicate k .back)).current = "" := by
  refine current_of_blank ?_
  rw [cursor_walk_back, entries_walk]
  omega

end GuidedShell.History
