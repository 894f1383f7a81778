import GuidedShell.Proofs.Session.Submission

/-! The history of a session is a log of its submissions. They alone lengthen it, and nothing shortens
it. -/
namespace GuidedShell

theorem History.cursor_back_le {h : History} (hc : h.cursor ≤ h.entries.length) :
    h.back.cursor ≤ h.entries.length :=
  Nat.le_trans (Nat.sub_le h.cursor 1) hc

namespace Session

variable (programs : Programs)

theorem history_handle {s : Session} (hc : s.suggestions.confirmed? = none) (line : String) :
    (s.handle programs (.submitLine line)).session.history =
      (s.record (Text.trim line)).history := by
  have hframe := (obey_frame programs (s.record (Text.trim line)) (Text.trim line)).2.1
  rw [handle_eq_obey programs hc]
  exact hframe

theorem entries_record (s : Session) (line : String) :
    (s.record line).history.entries =
      s.history.entries ++ [line].filter (!·.isEmpty) := by
  unfold record
  dsimp only
  split
  · rename_i h
    simp [h]
  · rename_i h
    simp [h]

theorem file?_record (s : Session) (line : String) :
    (s.record line).history.file? = s.history.file? := by
  unfold record
  dsimp only
  split <;> rfl

theorem file?_handle (s : Session) (e : Event) :
    (s.handle programs e).session.history.file? = s.history.file? := by
  cases he : s.edits e with
  | true => exact (handle_of_edits programs he).2.file
  | false =>
    obtain ⟨⟨line, rfl⟩, hc⟩ := edits_eq_false_iff.1 he
    rw [history_handle programs hc, file?_record]

theorem cursor_record (s : Session) (line : String) :
    (s.record line).history.cursor = (s.record line).history.entries.length := by
  unfold record
  dsimp only
  split <;> rfl

theorem history_hideSuggestions (s : Session) : s.hideSuggestions.1.history = s.history := by
  unfold hideSuggestions
  split <;> rfl

/-- What a step leaves in the history: the trimmed line of a submission that confirms nothing, unless
it is blank. -/
def Step.logged (t : Step) : List String :=
  match t.event with
  | .submitLine line =>
    if t.before.suggestions.confirmed?.isSome then [] else [Text.trim line].filter (!·.isEmpty)
  | .textChanged _ | .navigateKey _ => []

def logged (s : Session) (events : List Event) : List String :=
  (s.steps programs events).flatMap Step.logged

theorem Step.logged_of_edits {t : Step} (h : t.before.edits t.event) : t.logged = [] := by
  obtain ⟨before, event, reaction⟩ := t
  cases event with
  | textChanged | navigateKey => rfl
  | submitLine line => exact if_pos h

/-! One event. -/

theorem entries_handle (s : Session) (e : Event) :
    (s.handle programs e).session.history.entries =
      s.history.entries ++ Step.logged ⟨s, e, s.handle programs e⟩ := by
  cases he : s.edits e with
  | true =>
    have hnone := Step.logged_of_edits (t := ⟨s, e, s.handle programs e⟩) he
    rw [(handle_of_edits programs he).2.entries, hnone, List.append_nil]
  | false =>
    obtain ⟨⟨line, rfl⟩, hc⟩ := edits_eq_false_iff.1 he
    have hlogged : Step.logged ⟨s, .submitLine line, s.handle programs (.submitLine line)⟩ =
        [Text.trim line].filter (!·.isEmpty) := by
      simp only [Step.logged, hc, Option.isSome_none, Bool.false_eq_true, if_false]
    rw [history_handle programs hc, entries_record, hlogged]

/-- A submission that confirms nothing takes the cursor past the newest entry, even if it is blank. -/
theorem cursor_handle_submission {s : Session} {e : Event} (he : s.edits e = false) :
    (s.handle programs e).session.history.cursor =
      (s.handle programs e).session.history.entries.length := by
  obtain ⟨⟨line, rfl⟩, hc⟩ := edits_eq_false_iff.1 he
  rw [history_handle programs hc]
  exact s.cursor_record _

theorem cursor_handle_le {s : Session} (h : s.history.cursor ≤ s.history.entries.length)
    (e : Event) :
    (s.handle programs e).session.history.cursor ≤
      (s.handle programs e).session.history.entries.length := by
  cases he : s.edits e with
  | false => exact Nat.le_of_eq (cursor_handle_submission programs he)
  | true =>
    cases e with
    | textChanged text => exact h
    | submitLine line =>
      obtain ⟨text, ht⟩ := Option.isSome_iff_exists.1 he
      rw [handle_confirmed programs ht]
      exact h
    | navigateKey key =>
      have hhide : s.hideSuggestions.1.history.cursor ≤
          s.hideSuggestions.1.history.entries.length := by
        rwa [history_hideSuggestions]
      have hnext := s.navigates key
      simp only [handle]
      generalize s.navigate key = next at hnext
      cases hnext with
      | moved | ignored => exact h
      | hidden => exact hhide
      | back => exact History.cursor_back_le hhide
      | forward =>
        have hforward := History.cursor_forward_le hhide
        rwa [← History.entries_forward s.hideSuggestions.1.history] at hforward

/-! A whole run. -/

theorem logged_cons (s : Session) (e : Event) (es : List Event) :
    s.logged programs (e :: es) =
      Step.logged ⟨s, e, s.handle programs e⟩ ++ (s.handle programs e).session.logged programs es :=
  rfl

theorem entries_after (s : Session) (events : List Event) :
    (s.after programs events).history.entries = s.history.entries ++ s.logged programs events := by
  induction events generalizing s with
  | nil => exact (List.append_nil _).symm
  | cons e es ih => rw [after_cons, ih, entries_handle, logged_cons, List.append_assoc]

theorem cursor_after_le {s : Session} (h : s.history.cursor ≤ s.history.entries.length)
    (events : List Event) :
    (s.after programs events).history.cursor ≤ (s.after programs events).history.entries.length :=
  after_induction programs
    (fun t e (ht : t.history.cursor ≤ t.history.entries.length) => cursor_handle_le programs ht e) h
    events

/-- The history of a session is an append-only log. A run adds to it, in order, the trimmed line of
every submission that confirms nothing and is not blank. No other event changes the entries. The cursor
never leaves the log, and every such submission, blank or not, takes it past the end. -/
theorem history_logs_submissions {s : Session} (h : s.history.cursor = s.history.entries.length)
    (events : List Event) :
    (s.after programs events).history.entries = s.history.entries ++ s.logged programs events ∧
      (s.after programs events).history.cursor ≤
        (s.after programs events).history.entries.length ∧
      ∀ t ∈ s.steps programs events,
        t.reaction.session.history.entries = t.before.history.entries ++ t.logged ∧
        (t.before.edits t.event → t.reaction.session.history.entries = t.before.history.entries) ∧
        t.reaction.session.history.cursor ≤ t.reaction.session.history.entries.length ∧
        (t.before.edits t.event = false →
          t.reaction.session.history.cursor = t.reaction.session.history.entries.length) := by
  have hle := Nat.le_of_eq h
  refine ⟨entries_after programs s events, cursor_after_le programs hle events, ?_⟩
  intro t ht
  obtain ⟨front, e, back, -, rfl⟩ := (mem_steps_iff programs).1 ht
  have hbefore := cursor_after_le programs hle front
  refine ⟨entries_handle programs _ e, ?_, cursor_handle_le programs hbefore e, ?_⟩
  · exact fun hedits => (handle_of_edits programs hedits).2.entries
  · exact cursor_handle_submission programs

/-- Of a blank line, a line with blanks around it and a key, one entry is left. -/
theorem history_logs_submissions_bare :
    let events : List Event :=
      [.submitLine " echo hi ", .navigateKey .up, .submitLine " ", .navigateKey .up]
    bare.history.cursor = bare.history.entries.length ∧
      (bare.after .idle events).history.entries = ["echo hi"] := by
  intro events
  have hlogged : bare.logged .idle events = ["echo hi"] := by rfl
  have hlaw := (history_logs_submissions .idle (s := bare) rfl events).1
  rw [hlogged] at hlaw
  exact ⟨rfl, hlaw⟩

end Session

end GuidedShell
