/-! Cutting a list at the elements that separate. -/
namespace GuidedShell

variable {α : Type}

/-- The stretches between separators. A list with `n` separators has `n + 1` of them. -/
def pieces (sep : α → Bool) : List α → List (List α)
  | [] => [[]]
  | x :: xs =>
    if sep x then [] :: pieces sep xs
    else match pieces sep xs with
      | [] => [[x]]
      | p :: ps => (x :: p) :: ps

/-- The pieces in order, `glue` between neighbours. -/
def joinPieces (glue : List α) : List (List α) → List α
  | [] => []
  | [p] => p
  | p :: q :: ps => p ++ glue ++ joinPieces glue (q :: ps)

theorem pieces_ne_nil (sep : α → Bool) (xs : List α) : pieces sep xs ≠ [] := by
  cases xs with
  | nil => simp [pieces]
  | cons x xs =>
    simp only [pieces]
    split
    · simp
    · split <;> simp

theorem joinPieces_pieces [DecidableEq α] (sep : α) (xs : List α) :
    joinPieces [sep] (pieces (· == sep) xs) = xs := by
  induction xs with
  | nil => rfl
  | cons x xs ih =>
    simp only [pieces]
    split
    · rename_i h
      rw [eq_of_beq h]
      cases hp : pieces (· == sep) xs with
      | nil => exact absurd hp (pieces_ne_nil _ _)
      | cons p ps => rw [hp] at ih; simp [joinPieces, ih]
    · split
      · exact absurd ‹_› (pieces_ne_nil _ _)
      · rename_i p ps hp
        rw [hp] at ih
        rw [← ih]
        cases ps <;> rfl

theorem not_sep_of_mem_pieces (sep : α → Bool) (xs : List α) :
    ∀ p ∈ pieces sep xs, ∀ x ∈ p, sep x = false := by
  induction xs with
  | nil => simp [pieces]
  | cons y ys ih =>
    simp only [pieces]
    split
    · simpa using ih
    · rename_i hy
      split
      · simpa using hy
      · rename_i p ps hp
        rw [hp] at ih
        simp only [List.mem_cons, forall_eq_or_imp] at ih ⊢
        exact ⟨⟨by simpa using hy, ih.1⟩, ih.2⟩

end GuidedShell
