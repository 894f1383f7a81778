import GuidedShell.Correction
import Mathlib.Data.List.Nodup
import Mathlib.Data.List.Perm.Subperm

/-! Ranking offers some of the known names, each as often as it is known at most. -/
namespace GuidedShell.Correction

theorem perm_insertNear (p : Nat × String) (qs : List (Nat × String)) :
    (insertNear p qs).Perm (p :: qs) := by
  induction qs with
  | nil => exact .refl _
  | cons q qs ih =>
    unfold insertNear
    split
    · exact .refl _
    · exact (ih.cons q).trans (.swap p q qs)

theorem perm_nearestFirst (scored : List (Nat × String)) : (nearestFirst scored).Perm scored := by
  suffices h : ∀ sorted : List (Nat × String),
      (scored.foldl (fun sorted p => insertNear p sorted) sorted).Perm (sorted ++ scored) from h []
  induction scored with
  | nil => simp
  | cons p ps ih =>
    intro sorted
    have hput : (insertNear p sorted ++ ps).Perm (p :: sorted ++ ps) :=
      (perm_insertNear p sorted).append_right ps
    exact ((ih _).trans hput).trans List.perm_middle.symm

/-- The known names that are near enough, nearest first. -/
theorem rank_eq (typo : String) (known : List String) :
    ∃ near : List (Nat × String),
      near.Sublist (known.map fun name => (distance typo name, name)) ∧
        rank typo known = ((nearestFirst near).take maxCandidates).map (·.2) :=
  ⟨_, List.filter_sublist, rfl⟩

theorem rank_subperm (typo : String) (known : List String) : (rank typo known).Subperm known := by
  obtain ⟨near, hnear, hrank⟩ := rank_eq typo known
  have hknown : (known.map fun name => (distance typo name, name)).map (·.2) = known := by
    simp [Function.comp_def]
  have htake := (List.take_sublist maxCandidates (nearestFirst near)).map (·.2)
  have hpart := hnear.map (·.2)
  rw [hknown] at hpart
  rw [hrank]
  exact htake.subperm.trans (((perm_nearestFirst near).map (·.2)).subperm.trans hpart.subperm)

theorem length_rank_le (typo : String) (known : List String) :
    (rank typo known).length ≤ maxCandidates := by
  unfold rank
  dsimp only
  rw [List.length_map]
  exact List.length_take_le _ _

theorem nodup_rank {known : List String} (h : known.Nodup) (typo : String) :
    (rank typo known).Nodup := by
  obtain ⟨part, hperm, hsub⟩ := rank_subperm typo known
  exact hperm.nodup_iff.1 (h.sublist hsub)

end GuidedShell.Correction
