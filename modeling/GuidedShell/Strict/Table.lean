import GuidedShell.EditDistance

/-! Strict arithmetic, which has no result below zero, for a division by zero and outside a row, and
the distance of two texts computed with it, in two rows that change places. -/
namespace GuidedShell.Strict

def difference? (m n : Nat) : Option Nat := if n ≤ m then some (m - n) else none

def remainder? (m n : Nat) : Option Nat := if n = 0 then none else some (m % n)

def put? (row : List Nat) (i value : Nat) : Option (List Nat) :=
  if i < row.length then some (row.set i value) else none

/-- The rows that are kept of the table: the last that is finished, and one that is free to be
written over. -/
structure Rows where
  last : List Nat
  free : List Nat

variable {α : Type} [DecidableEq α]

/-- Write cell `j` of row `i`, which comes after the row `last`. -/
def putCell? (xs ys : List α) (last : List Nat) (i : Nat) (row : List Nat) (j : Nat) :
    Option (List Nat) := do
  let x ← xs[← difference? i 1]?
  let y ← ys[← difference? j 1]?
  let up ← last[j]?
  let left ← row[← difference? j 1]?
  let corner ← last[← difference? j 1]?
  put? row j (min (min (up + 1) (left + 1)) (corner + if x = y then 0 else 1))

/-- Write row `i` over the free row. The two rows change places. -/
def putRow? (xs ys : List α) (rows : Rows) (i : Nat) : Option Rows := do
  let row ← put? rows.free 0 i
  let row ← (List.range' 1 ys.length).foldlM (putCell? xs ys rows.last i) row
  return ⟨row, rows.last⟩

/-- The rows after the first `n` characters of `xs`. -/
def rows? (xs ys : List α) (n : Nat) : Option Rows :=
  (List.range' 1 n).foldlM (putRow? xs ys)
    ⟨List.range (ys.length + 1), List.replicate (ys.length + 1) 0⟩

def distance? (xs ys : List α) : Option Nat := do
  let rows ← rows? xs ys xs.length
  rows.last[ys.length]?

end GuidedShell.Strict
