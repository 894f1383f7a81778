/-! How far two texts are from one another, counted in insertions, deletions and substitutions of
single characters. -/
namespace GuidedShell.EditDistance

variable {α : Type} [DecidableEq α]

/-- The cells of the next row, after the one whose value is `left`. Above that one stands `corner`,
and above these stand the cells given. -/
def cells (x : α) : (corner left : Nat) → (above : List Nat) → List α → List Nat
  | corner, left, up :: ups, y :: ys =>
    let here := min (min (up + 1) (left + 1)) (corner + if x = y then 0 else 1)
    here :: cells x up here ups ys
  | _, _, _, _ => []

/-- From the distances between a text and each start of `ys` to those for the text with one
character more. -/
def nextRow (ys : List α) (row : List Nat) (x : α) : List Nat :=
  match row with
  | [] => []
  | first :: rest => (first + 1) :: cells x first (first + 1) rest ys

/-- The distances between `xs` and each start of `ys`, the empty one first. -/
def lastRow (xs ys : List α) : List Nat :=
  xs.foldl (nextRow ys) (List.range (ys.length + 1))

def distance (xs ys : List α) : Nat := (lastRow xs ys).getLastD 0

theorem length_cells (x : α) (corner left : Nat) (above : List Nat) (ys : List α) :
    (cells x corner left above ys).length = min above.length ys.length := by
  induction ys generalizing corner left above with
  | nil => cases above <;> simp [cells]
  | cons y ys ih => cases above <;> simp [cells, ih]

theorem length_nextRow {ys : List α} {row : List Nat} (h : row.length = ys.length + 1) (x : α) :
    (nextRow ys row x).length = ys.length + 1 := by
  cases row with
  | nil => simp at h
  | cons first rest => simp_all [nextRow, length_cells]

theorem length_lastRow (xs ys : List α) : (lastRow xs ys).length = ys.length + 1 := by
  suffices h : ∀ row : List Nat, row.length = ys.length + 1 →
      (xs.foldl (nextRow ys) row).length = ys.length + 1 from h _ (by simp)
  induction xs with
  | nil => simp
  | cons x xs ih => exact fun row h => ih _ (length_nextRow h x)

end GuidedShell.EditDistance
