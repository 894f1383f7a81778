import GuidedShell.Proofs.CommandIndex.Known
import GuidedShell.Proofs.Correction.Rank
import GuidedShell.Proofs.Session.CorrectionFlow
import GuidedShell.Proofs.Strict.Session

/-! No name is offered twice, neither as a suggestion nor as a correction. -/
namespace GuidedShell

theorem Suggestions.completions_sublist (buffer : String) (known : List String) :
    (completions buffer known).Sublist known := by
  unfold completions
  split
  · exact List.nil_sublist _
  · exact List.filter_sublist

namespace Strict

/-- A session that follows from a new one shows known names, and waits with a menu of known names
if it waits at all. -/
theorem Follows.of_new {commands : List Command.Factory} {world : World}
    {environment : Environment} {index : CommandIndex} {history : History} {s : Session}
    (h : Follows commands (.new world environment index history) s) :
    known commands s = index.known (Command.Factory.builtins commands) ∧
      s.suggestions.shown.Sublist (known commands s) ∧
      ∀ menu, s.mode = .awaitingCorrection menu →
        menu.candidates ≠ [] ∧
          ∃ typo, menu.candidates = Correction.rank typo (known commands s) := by
  have hknown := h.known_eq
  refine ⟨hknown, ?_, ?_⟩
  · rcases h.shown with hshown | ⟨text, hshown⟩
    · rw [hshown]
      exact List.nil_sublist _
    · rw [hshown, hknown]
      exact Suggestions.completions_sublist _ _
  · intro menu hmenu
    rcases h.mode with hmode | hmode | ⟨name, args, menu', hoffer, hmode⟩
    · rw [hmode] at hmenu
      cases hmenu
    · rw [hmode] at hmenu
      cases hmenu
    · rw [hmode] at hmenu
      cases hmenu
      obtain ⟨hranked, rfl⟩ := Correction.offer?_eq_some_iff.1 hoffer
      rw [hknown]
      exact ⟨hranked, name, rfl⟩

/-- Whatever commands a session has, if their builtins have different names: the names that it draws
from are the builtins, in their order, and then the other names of its index, ascending, and none
of them is there twice. After any events the list on display is a part of them in their order, and a
menu that waits for a reply has one to three of them, all different. -/
theorem offers_are_distinct {commands : List Command.Factory}
    (hbuiltins : (Command.Factory.builtins commands).Nodup) {index : CommandIndex}
    (hmade : index.Made) (world : World) (environment : Environment) (history : History)
    (events : List Event) :
    let first := Session.new world environment index history
    let names := Command.Factory.builtins commands
    (known commands first).Nodup ∧
      (∃ others, known commands first = names ++ others ∧ others.Pairwise (· < ·) ∧
        ∀ n, n ∈ others ↔ n ∈ index.names ∧ n ∉ names) ∧
      (∀ n, n ∈ known commands first ↔ n ∈ names ∨ n ∈ index.names) ∧
      ∃ s, after? commands first events = some s ∧
        (∀ programs, commands = Command.Factory.standard programs →
          s = first.after programs events) ∧
        known commands s = known commands first ∧
        s.suggestions.shown.Nodup ∧ s.suggestions.shown.Sublist (known commands s) ∧
        ∀ menu, s.mode = .awaitingCorrection menu →
          menu.candidates.Nodup ∧ 1 ≤ menu.candidates.length ∧ menu.candidates.length ≤ 3 ∧
            ∀ name ∈ menu.candidates, name ∈ known commands s := by
  intro first names
  have hnodup : (known commands first).Nodup := CommandIndex.nodup_known hmade hbuiltins
  have hothers : (index.others names).Pairwise (· < ·) := hmade.ascending.filter _
  refine ⟨hnodup, ⟨index.others names, rfl, hothers, fun n => CommandIndex.mem_others_iff⟩,
    fun n => CommandIndex.mem_known_iff, ?_⟩
  obtain ⟨s, hafter, hfollows⟩ := after?_eq_some commands first events
  obtain ⟨hknown, hshown, hmenu⟩ := hfollows.of_new
  refine ⟨s, hafter, ?_, hknown, ?_, hshown, ?_⟩
  · rintro programs rfl
    rw [after?_standard] at hafter
    exact (Option.some.inj hafter).symm
  · rw [hknown] at hshown
    exact hnodup.sublist hshown
  · intro menu hmode
    obtain ⟨hne, typo, hrank⟩ := hmenu menu hmode
    rw [hknown] at hrank ⊢
    rw [hrank] at hne ⊢
    have hpart := (Correction.rank_subperm typo (known commands first)).subset
    exact ⟨Correction.nodup_rank hnodup typo, List.length_pos_iff.2 hne,
      Correction.length_rank_le typo _, hpart⟩

theorem offers_are_distinct_git :
    let commands := Command.Factory.standard .idle
    let index := CommandIndex.ofNames ["git", "Echo", "gist", "GIT"]
    (Command.Factory.builtins commands).Nodup ∧ index.Made ∧
      ∃ s menu, after? commands
          (.new ⟨.empty, [], [], none⟩ ⟨[], [FilePath.slash], false⟩ index .empty)
          [.submitLine "gits"] = some s ∧
        s.mode = .awaitingCorrection menu ∧ menu.candidates = ["git", "gist"] ∧
        menu.candidates.Nodup := by
  intro commands index
  have hbuiltins : (Command.Factory.builtins commands).Nodup := by decide
  have hmade : index.Made := .ofNames _
  have hlaw := offers_are_distinct hbuiltins hmade ⟨.empty, [], [], none⟩
    ⟨[], [FilePath.slash], false⟩ .empty [.submitLine "gits"]
  obtain ⟨-, -, -, s, hafter, hs, -, -, -, hmenu⟩ := hlaw
  have hmode : s.mode = .awaitingCorrection ⟨"gits", [], ["git", "gist"]⟩ := by
    rw [hs .idle rfl]
    rfl
  exact ⟨hbuiltins, hmade, s, _, hafter, hmode, rfl, (hmenu _ hmode).1⟩

end Strict

end GuidedShell
