import GuidedShell.Proofs.Session.Submission
import GuidedShell.Proofs.Suggestions.Selection

/-! The highlighted row is always one of the rows on display. -/
namespace GuidedShell

namespace Session

variable (programs : Programs)

theorem sound_hideSuggestions {s : Session} (h : s.suggestions.Sound) :
    s.hideSuggestions.1.suggestions.Sound := by
  unfold hideSuggestions
  split
  · exact Suggestions.sound_hidden
  · exact h

theorem suggestions_handle {s : Session} (h : s.suggestions.confirmed? = none) (line : String) :
    (s.handle programs (.submitLine line)).session.suggestions = s.hideSuggestions.1.suggestions := by
  rw [handle_eq_obey programs h]
  rfl

theorem sound_handle {s : Session} (h : s.suggestions.Sound) (e : Event) :
    (s.handle programs e).session.suggestions.Sound := by
  have hhide := sound_hideSuggestions h
  cases e with
  | textChanged text => exact s.suggestions.sound_update text s.known
  | navigateKey key =>
    have hnext := s.navigates key
    simp only [handle]
    generalize s.navigate key = next at hnext
    cases hnext with
    | moved m => exact Suggestions.sound_move h m
    | ignored => exact h
    | back | forward | hidden => exact hhide
  | submitLine line =>
    cases hc : s.suggestions.confirmed? with
    | some text =>
      rw [handle_confirmed programs hc]
      exact Suggestions.sound_hidden
    | none =>
      rw [suggestions_handle programs hc]
      exact hhide

end Session

end GuidedShell
