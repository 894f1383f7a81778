import GuidedShell.Pieces

/-! Lists that are put together around separators come apart there again. -/
namespace GuidedShell

variable {α : Type} {sep : α → Bool}

theorem pieces_of_forall {xs : List α} (h : ∀ x ∈ xs, sep x = false) : pieces sep xs = [xs] := by
  induction xs with
  | nil => rfl
  | cons x xs ih =>
    have hx : sep x = false := h x List.mem_cons_self
    have hxs := ih fun z hz => h z (List.mem_cons_of_mem _ hz)
    simp [pieces, hx, hxs]

/-- A separator keeps what stands before it and what follows it apart. -/
theorem pieces_append {y : α} (hy : sep y) (xs ys : List α) :
    pieces sep (xs ++ y :: ys) = pieces sep xs ++ pieces sep ys := by
  induction xs with
  | nil => simp [pieces, hy]
  | cons x xs ih =>
    obtain ⟨p, ps, hps⟩ := List.exists_cons_of_ne_nil (pieces_ne_nil sep xs)
    rw [hps] at ih
    by_cases hx : sep x
    · simp [pieces, hx, hps, ih]
    · simp [pieces, hx, hps, ih]

theorem exists_pieces_eq_concat (sep : α → Bool) (xs : List α) :
    ∃ front last, pieces sep xs = front ++ [last] :=
  ⟨_, _, (List.dropLast_concat_getLast (pieces_ne_nil sep xs)).symm⟩

theorem pieces_cons_of_not {x : α} {xs p : List α} {ps : List (List α)} (hx : sep x = false)
    (h : pieces sep xs = p :: ps) : pieces sep (x :: xs) = (x :: p) :: ps := by
  simp [pieces, hx, h]

/-- Where two lists meet, the last piece of the one and the first of the other are one. -/
theorem pieces_append_of_last {xs ys p q : List α} {before after : List (List α)}
    (hxs : pieces sep xs = before ++ [p]) (hys : pieces sep ys = q :: after) :
    pieces sep (xs ++ ys) = before ++ (p ++ q) :: after := by
  induction xs generalizing before p with
  | nil =>
    have hends : [] ++ [[]] = before ++ [p] := hxs
    obtain ⟨rfl, hp⟩ := List.append_inj' hends rfl
    obtain rfl := List.singleton_inj.1 hp
    exact hys
  | cons x xs ih =>
    obtain ⟨front, last, hlast⟩ := exists_pieces_eq_concat sep xs
    have hrest := ih hlast
    cases hx : sep x with
    | true =>
      have hcut (zs : List α) : pieces sep (x :: zs) = [] :: pieces sep zs := by simp [pieces, hx]
      have hends : ([] :: front) ++ [last] = before ++ [p] := by rw [← hxs, hcut, hlast]; rfl
      obtain ⟨rfl, hp⟩ := List.append_inj' hends rfl
      obtain rfl := List.singleton_inj.1 hp
      rw [List.cons_append, hcut, hrest, List.cons_append]
    | false =>
      -- `x` joins the first piece of `xs`, which is the last one too if there is no other.
      cases front with
      | nil =>
        have hends : [] ++ [x :: last] = before ++ [p] := by
          rw [← hxs, pieces_cons_of_not hx hlast]; rfl
        obtain ⟨rfl, hp⟩ := List.append_inj' hends rfl
        obtain rfl := List.singleton_inj.1 hp
        exact pieces_cons_of_not hx hrest
      | cons f front =>
        have hends : ((x :: f) :: front) ++ [last] = before ++ [p] := by
          rw [← hxs, pieces_cons_of_not hx hlast]; rfl
        obtain ⟨rfl, hp⟩ := List.append_inj' hends rfl
        obtain rfl := List.singleton_inj.1 hp
        exact pieces_cons_of_not hx hrest

/-- Lists that are each ended by a separator come apart one after another. -/
theorem pieces_flatMap {y : α} (hy : sep y) (ls : List (List α)) :
    pieces sep (ls.flatMap (· ++ [y])) = ls.flatMap (pieces sep) ++ [[]] := by
  induction ls with
  | nil => rfl
  | cons l ls ih =>
    rw [List.flatMap_cons, List.append_assoc, List.singleton_append, pieces_append hy, ih,
      List.flatMap_cons, List.append_assoc]

end GuidedShell
