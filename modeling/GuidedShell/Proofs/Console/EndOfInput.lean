import GuidedShell.Console.Process
import GuidedShell.Proofs.Console.HistoryFile
import GuidedShell.Proofs.Session.Exit
import GuidedShell.Proofs.Terminal.Written

/-! The end of the input ends a session as the line `exit` does. -/
namespace GuidedShell

namespace History

end History

namespace Console

open Terminal

variable {libs : Libraries} {programs : Programs}

theorem Reads.after {s : Session} (h : Reads s) {lines : List String}
    (hgoes : ∀ t ∈ s.steps programs (lines.map .submitLine), t.reaction.flow = .goOn) :
    Reads (s.after programs (lines.map .submitLine)) := by
  induction lines generalizing s with
  | nil => exact h
  | cons line lines ih =>
    have hflow : (s.handle programs (.submitLine line)).flow = .goOn :=
      hgoes ⟨s, .submitLine line, _⟩ List.mem_cons_self
    have hnext : Reads (s.handle programs (.submitLine line)).session := by
      rcases Session.handle_cases programs h.unconfirmed h.lasts line with
        ⟨-, hlasts⟩ | ⟨hexit, -⟩
      · exact h.handle programs hlasts
      · rw [hflow] at hexit
        cases hexit
    exact ih hnext fun t ht => hgoes t (List.mem_cons_of_mem _ ht)

end Console

end GuidedShell
