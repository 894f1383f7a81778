import GuidedShell.Proofs.CommandIndex.Scan
import Mathlib.Data.List.Nodup

/-! The names of an index are in ascending order, and so are those that it adds to the builtins. -/
namespace GuidedShell.CommandIndex

/-- An index comes from a search path or from given names. -/
inductive Made : CommandIndex → Prop
  | scan (w : World) (search : Bytes) (extensions : List String) :
    Made (scan w search extensions)
  | ofNames (names : List String) : Made (ofNames names)

theorem Made.ascending {index : CommandIndex} (h : index.Made) :
    index.names.Pairwise (· < ·) := by
  cases h with
  | scan => exact ascending_insertAll .nil _
  | ofNames => exact ascending_insertAll .nil _

variable {index : CommandIndex} {builtins : List String}

/-- What the index adds to the builtins. -/
def others (index : CommandIndex) (builtins : List String) : List String :=
  index.names.filter (!builtins.contains ·)

theorem mem_others_iff {n : String} :
    n ∈ index.others builtins ↔ n ∈ index.names ∧ n ∉ builtins := by
  simp [others]

theorem mem_known_iff {n : String} : n ∈ index.known builtins ↔ n ∈ builtins ∨ n ∈ index.names := by
  unfold known
  by_cases h : n ∈ builtins
  · simp [h]
  · simp [h]

theorem nodup_known (h : index.Made) (hbuiltins : builtins.Nodup) :
    (index.known builtins).Nodup := by
  have hothers : (index.others builtins).Nodup := (h.ascending.filter _).nodup
  refine hbuiltins.append hothers fun n hn hn' => ?_
  exact (mem_others_iff.1 hn').2 hn

end GuidedShell.CommandIndex
