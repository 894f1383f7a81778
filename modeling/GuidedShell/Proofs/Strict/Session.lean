import GuidedShell.Proofs.Session.Submission
import GuidedShell.Proofs.Strict.Parts
import GuidedShell.Strict.Session

/-! Every event has a result in strict arithmetic. With the standard commands it is the one that the
session gives. -/
namespace GuidedShell.Strict

open Session Surface

theorem moveSelection?_eq_some (s : Session) (m : Suggestions.Move) :
    moveSelection? s m = some (s.moveSelection m) := by
  unfold moveSelection?
  rw [move?_eq_some]
  rfl

theorem navigate?_eq_some (s : Session) (key : Key) : navigate? s key = some (s.navigate key) := by
  unfold navigate?
  simp only [moveSelection?_eq_some]
  split
  case h_4 => rfl
  all_goals
    rename_i hactive
    simp only [navigate, hactive]

theorem answer?_eq_some (s : Session) (menu : Correction) (line : String) :
    answer? s menu line = some (s.answer menu line) := by
  unfold answer? answer
  rw [resolve?_eq_some]
  dsimp only
  cases menu.resolve line with
  | ok text => rfl
  | error failure => rfl

variable (commands : List Command.Factory)

theorem offerCorrections?_eq_some (s : Session) (name : String) (args : List String) :
    offerCorrections? commands s name args =
      some (match Correction.offer? name args (known commands s) with
        | some menu => ({ s with mode := .awaitingCorrection menu }, [.print menu.menu])
        | none => (s, [.print ((Failure.commandNotFound name).message ++ "\n")])) := by
  unfold offerCorrections?
  rw [offer?_eq_some]
  cases Correction.offer? name args (known commands s) with
  | none => rfl
  | some menu => rfl

/-- What a session can come to: its index stays, the list on display stays or completes some text,
and the mode stays, or is that of commands, or waits with a menu that was offered. -/
structure Follows (s t : Session) : Prop where
  index : t.index = s.index
  shown : t.suggestions.shown = s.suggestions.shown ∨
    ∃ text, t.suggestions.shown = Suggestions.completions text (known commands s)
  mode : t.mode = s.mode ∨ t.mode = .normal ∨ ∃ name args menu,
    Correction.offer? name args (known commands s) = some menu ∧ t.mode = .awaitingCorrection menu

namespace Follows

variable {commands} {s t u : Session}

theorem refl (s : Session) : Follows commands s s := ⟨rfl, .inl rfl, .inl rfl⟩

theorem known_eq (h : Follows commands s t) : known commands t = known commands s :=
  congrArg (·.known (Command.Factory.builtins commands)) h.index

theorem trans (h : Follows commands s t) (k : Follows commands t u) : Follows commands s u := by
  refine ⟨k.index.trans h.index, ?_, ?_⟩
  · rcases k.shown with hshown | hshown
    · rw [hshown]
      exact h.shown
    · rw [h.known_eq] at hshown
      exact .inr hshown
  · rcases k.mode with hmode | hmode | hmode
    · rw [hmode]
      exact h.mode
    · exact .inr (.inl hmode)
    · rw [h.known_eq] at hmode
      exact .inr (.inr hmode)

end Follows

theorem follows_hideSuggestions (s : Session) : Follows commands s s.hideSuggestions.1 := by
  unfold hideSuggestions
  split
  · exact ⟨rfl, .inr ⟨"", rfl⟩, .inl rfl⟩
  · exact .refl s

theorem follows_record (s : Session) (line : String) : Follows commands s (s.record line) :=
  ⟨rfl, .inl rfl, .inl rfl⟩

theorem follows_navigate (s : Session) (key : Key) : Follows commands s (s.navigate key).1 := by
  have hhide := follows_hideSuggestions commands s
  have hnext := s.navigates key
  generalize s.navigate key = next at hnext
  cases hnext with
  | moved m => exact ⟨rfl, .inl (Suggestions.shown_move _ m), .inl rfl⟩
  | ignored => exact .refl s
  | back | forward | hidden => exact ⟨hhide.index, hhide.shown, hhide.mode⟩

theorem follows_changeText (s : Session) (text : String) :
    Follows commands s (changeText commands s text).1 :=
  ⟨rfl, .inr ⟨text, Suggestions.shown_update _ _ _⟩, .inl rfl⟩

theorem report?_eq_some (s : Session) (name : String) (args : List String)
    (outcome : Except Failure Outcome) :
    ∃ t calls, report? commands s name args outcome = some (t, calls) ∧ Follows commands s t := by
  rcases outcome with failure | code | _ | _
  · exact ⟨_, _, rfl, .refl s⟩
  · exact ⟨_, _, rfl, .refl s⟩
  · unfold report?
    rw [offerCorrections?_eq_some]
    cases hoffer : Correction.offer? name args (known commands s) with
    | none => exact ⟨_, _, rfl, .refl s⟩
    | some menu => exact ⟨_, _, rfl, rfl, .inl rfl, .inr (.inr ⟨name, args, menu, hoffer, rfl⟩)⟩
  · exact ⟨_, _, rfl, .refl s⟩

theorem run?_eq_some (s : Session) (name : String) (args : List String) :
    ∃ r, run? commands s name args = some r ∧ Follows commands s r.session := by
  unfold run?
  generalize Command.Factory.dispatch commands s.index s.setting name args = effect
  obtain ⟨t, told, hreport, ht⟩ := report?_eq_some commands
    { s with environment := effect.environment, world := effect.world } name args effect.outcome
  dsimp only
  rw [hreport]
  dsimp only [Option.bind_eq_bind, Option.bind_some]
  split
  · refine ⟨_, rfl, ?_⟩
    rw [shutdown_eq]
    exact ⟨ht.index, ht.shown, ht.mode⟩
  · exact ⟨_, rfl, ht.index, ht.shown, ht.mode⟩

theorem obey?_eq_some (s : Session) (line : String) :
    ∃ r, obey? commands s line = some r ∧ Follows commands s r.session := by
  unfold obey?
  split
  · refine ⟨_, answer?_eq_some s _ line, ?_⟩
    rw [answer_session]
    exact ⟨rfl, .inl rfl, .inr (.inl rfl)⟩
  · split
    · exact ⟨_, rfl, .refl s⟩
    · exact run?_eq_some commands s _ _

theorem handle?_eq_some (s : Session) (e : Event) :
    ∃ r, handle? commands s e = some r ∧ Follows commands s r.session := by
  cases e with
  | textChanged text => exact ⟨_, rfl, follows_changeText commands s text⟩
  | navigateKey key =>
    refine ⟨⟨(s.navigate key).1, .goOn, (s.navigate key).2⟩, ?_, follows_navigate commands s key⟩
    simp only [handle?, navigate?_eq_some]
    rfl
  | submitLine line =>
    simp only [handle?, submit?]
    split
    · exact ⟨_, rfl, rfl, .inr ⟨"", rfl⟩, .inl rfl⟩
    · have hhide := follows_hideSuggestions commands s
      have hrecord := follows_record commands s.hideSuggestions.1 (Text.trim line)
      obtain ⟨r, hobey, hr⟩ := obey?_eq_some commands
        (s.hideSuggestions.1.record (Text.trim line)) (Text.trim line)
      refine ⟨r.after s.hideSuggestions.2, ?_, (hhide.trans hrecord).trans hr⟩
      rw [hobey]
      rfl

/-- Every run has a result, and its sessions follow from the first. -/
theorem after?_eq_some (s : Session) (events : List Event) :
    ∃ t, after? commands s events = some t ∧ Follows commands s t := by
  induction events generalizing s with
  | nil => exact ⟨s, rfl, .refl s⟩
  | cons e es ih =>
    obtain ⟨r, hhandle, hr⟩ := handle?_eq_some commands s e
    obtain ⟨t, hafter, ht⟩ := ih r.session
    refine ⟨t, ?_, hr.trans ht⟩
    unfold after? at hafter ⊢
    rw [List.foldlM_cons, hhandle]
    exact hafter

/-! With the standard commands. -/

open Command.Factory (standard)

variable (programs : Programs)

theorem report?_standard (s : Session) (name : String) (args : List String)
    (outcome : Except Failure Outcome) :
    report? (standard programs) s name args outcome = some (s.report name args outcome) := by
  rcases outcome with failure | code | _ | _
  · rfl
  · rfl
  · unfold report?
    rw [offerCorrections?_eq_some]
    unfold report offerCorrections
    rfl
  · rfl

theorem run?_standard (s : Session) (name : String) (args : List String) :
    run? (standard programs) s name args = some (s.run programs name args) := by
  unfold run?
  rw [Command.Factory.dispatch_standard, run_eq]
  generalize Command.dispatch programs s.setting name args = effect
  have hreport := report?_standard programs (s.adopt effect) name args effect.outcome
  unfold adopt at hreport ⊢
  dsimp only
  rw [hreport]
  dsimp only [Option.bind_eq_bind, Option.bind_some]
  split
  · rfl
  · rfl

theorem obey?_standard (s : Session) (line : String) :
    obey? (standard programs) s line = some (s.obey programs line) := by
  unfold obey? obey
  cases s.mode with
  | awaitingCorrection menu => exact answer?_eq_some s menu line
  | normal =>
    cases Text.words line with
    | nil => rfl
    | cons name args => exact run?_standard programs s name args

theorem handle?_standard (s : Session) (e : Event) :
    handle? (standard programs) s e = some (s.handle programs e) := by
  cases e with
  | textChanged text => rfl
  | navigateKey key =>
    simp only [handle?, navigate?_eq_some]
    rfl
  | submitLine line =>
    unfold handle? submit? handle submit
    cases hc : s.suggestions.confirmed? with
    | some text => rfl
    | none =>
      dsimp only
      rw [obey?_standard]
      rfl

theorem after?_standard (s : Session) (events : List Event) :
    after? (standard programs) s events = some (s.after programs events) := by
  induction events generalizing s with
  | nil => rfl
  | cons e es ih =>
    unfold after? at ih ⊢
    rw [List.foldlM_cons, handle?_standard]
    exact ih _

/-- No session fails, whatever its commands are, what state it is in and what it is told, and no
hint does: nothing is read or written outside a list, taken from a smaller number or divided by
zero. The results are those of the session, and both rows of the distances always have one cell more
than the name has characters. -/
theorem no_event_fails :
    (∀ commands s e, ∃ r, handle? commands s e = some r) ∧
      (∀ programs s e, handle? (standard programs) s e = some (s.handle programs e)) ∧
      (∀ programs s events,
        after? (standard programs) s events = some (s.after programs events)) ∧
      (∀ names selected, hint? names selected = some (Terminal.hint names selected)) ∧
      (∀ (typo name : List Char) (n : Fin (typo.length + 1)), ∃ rows,
        rows? typo name n = some rows ∧ rows.last.length = name.length + 1 ∧
          rows.free.length = name.length + 1) ∧
      (∀ typo name : String,
        distance? typo.toList name.toList = some (Correction.distance typo name)) ∧
      (∀ g m, move? g m = some (g.move m)) ∧
      ∀ c reply, resolve? c reply = some (Correction.resolve c reply) := by
  refine ⟨?_, handle?_standard, after?_standard, hint?_eq_some, ?_,
    fun _ _ => distance?_eq_some _ _, move?_eq_some, resolve?_eq_some⟩
  · intro commands s e
    obtain ⟨r, hr, -⟩ := handle?_eq_some commands s e
    exact ⟨r, hr⟩
  · intro typo name n
    obtain ⟨rows, hrun, hlast, hfree⟩ := rows?_eq_some typo name (Nat.le_of_lt_succ n.isLt)
    exact ⟨rows, hrun, hlast.length, hfree⟩

end GuidedShell.Strict
