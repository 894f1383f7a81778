import GuidedShell.Proofs.Session.Run

/-! What obeying a line reads and writes: neither the list on display nor the place in the history. -/
namespace GuidedShell

theorem Suggestions.confirmed?_of_inactive {g : Suggestions} (h : g.isActive = false) :
    g.confirmed? = none := by
  have hshown : g.shown = [] := by simpa [isActive] using h
  simp [confirmed?, chosen?, hshown]

namespace Session

variable (programs : Programs)

/-- The same session with another list on display. -/
def display (s : Session) (g : Suggestions) : Session := { s with suggestions := g }

def Reaction.display (r : Reaction) (g : Suggestions) : Reaction :=
  { r with session := r.session.display g }

@[simp] theorem Reaction.display_display (r : Reaction) (g g' : Suggestions) :
    (r.display g).display g' = r.display g' := rfl

theorem shutdown_display (s : Session) (g : Suggestions) :
    (s.display g).shutdown = (s.shutdown.1.display g, s.shutdown.2) := by
  unfold shutdown save
  dsimp only [display]
  split <;> rfl

theorem report_display (s : Session) (g : Suggestions) (name : String) (args : List String)
    (outcome : Except Failure Outcome) :
    (s.display g).report name args outcome =
      ((s.report name args outcome).1.display g, (s.report name args outcome).2) := by
  unfold report
  split
  · rfl
  · rfl
  · unfold offerCorrections
    dsimp only [display, known]
    split <;> rfl
  · rfl

def adopt (s : Session) (effect : Command.Effect) : Session :=
  { s with environment := effect.environment, world := effect.world }

/-- A command's changes are adopted, its outcome is told, and the session closes if it is to. -/
theorem run_eq (s : Session) (name : String) (args : List String) :
    s.run programs name args =
      let effect := Command.dispatch programs s.setting name args
      let written :=
        if effect.output.isEmpty then [] else [Surface.Call.print (Text.ofBytesLossy effect.output)]
      let told := (s.adopt effect).report name args effect.outcome
      if told.1.environment.shouldExit then
        ⟨told.1.shutdown.1, .exit, written ++ told.2 ++ told.1.shutdown.2⟩
      else ⟨told.1, .goOn, written ++ told.2⟩ := rfl

theorem run_display (s : Session) (g : Suggestions) (name : String) (args : List String) :
    (s.display g).run programs name args = (s.run programs name args).display g := by
  have hsetting : (s.display g).setting = s.setting := rfl
  rw [run_eq, run_eq, hsetting]
  generalize Command.dispatch programs s.setting name args = effect
  have hadopt : (s.display g).adopt effect = (s.adopt effect).display g := rfl
  dsimp only
  rw [hadopt, report_display]
  dsimp only
  generalize (s.adopt effect).report name args effect.outcome = told
  have henv : (told.1.display g).environment = told.1.environment := rfl
  rw [henv, shutdown_display]
  split <;> rfl

@[simp] theorem mode_record (s : Session) (line : String) : (s.record line).mode = s.mode := rfl

@[simp] theorem index_record (s : Session) (line : String) : (s.record line).index = s.index := rfl

@[simp] theorem known_record (s : Session) (line : String) : (s.record line).known = s.known := rfl

theorem record_display (s : Session) (g : Suggestions) (line : String) :
    (s.display g).record line = (s.record line).display g := rfl

theorem obey_display (s : Session) (g : Suggestions) (line : String) :
    (s.display g).obey programs line = (s.obey programs line).display g := by
  unfold obey
  dsimp only [display]
  split
  · unfold answer
    dsimp only
    split <;> rfl
  · split
    · rfl
    · exact s.run_display programs g _ _

/-! What obeying a line leaves alone. -/

/-- Telling how a command came out changes nothing but what the next line means. -/
theorem report_eq (s : Session) (name : String) (args : List String)
    (outcome : Except Failure Outcome) :
    (s.report name args outcome).1 = { s with mode := (s.report name args outcome).1.mode } := by
  unfold report
  split
  · rfl
  · rfl
  · unfold offerCorrections
    split <;> rfl
  · rfl

theorem shutdown_eq (s : Session) :
    s.shutdown.1 = { s with
      world := { s.world with files := s.shutdown.1.world.files }
      saves := s.saves ++ [s.history.entries] } := by
  unfold shutdown save
  dsimp only
  split <;> rfl

theorem run_frame (s : Session) (name : String) (args : List String) :
    (s.run programs name args).session.index = s.index ∧
      (s.run programs name args).session.history = s.history ∧
      (s.run programs name args).session.suggestions = s.suggestions := by
  rw [run_eq]
  dsimp only
  split
  · rw [shutdown_eq, report_eq]
    exact ⟨rfl, rfl, rfl⟩
  · rw [report_eq]
    exact ⟨rfl, rfl, rfl⟩

theorem answer_session (s : Session) (menu : Correction) (line : String) :
    (s.answer menu line).session = { s with mode := .normal } := by
  unfold answer
  dsimp only
  split <;> rfl

theorem obey_frame (s : Session) (line : String) :
    (s.obey programs line).session.index = s.index ∧
      (s.obey programs line).session.history = s.history ∧
      (s.obey programs line).session.suggestions = s.suggestions := by
  unfold obey
  split
  · rw [answer_session]
    exact ⟨rfl, rfl, rfl⟩
  · split
    · exact ⟨rfl, rfl, rfl⟩
    · exact s.run_frame programs _ _

/-- Putting the list away leaves none on display, whether there was one or not. -/
theorem inactive_hideSuggestions (s : Session) :
    s.hideSuggestions.1.suggestions.isActive = false := by
  unfold hideSuggestions
  split
  · rfl
  · rename_i h
    simpa using h

theorem record_of_agree {s t : Session} (h : Agree s t) (line : String) :
    t.record line = (s.record line).display t.suggestions := by
  obtain ⟨henv, hindex, hmode, hworld, hentries, hfile, hsaves⟩ := h
  obtain ⟨environment, index, ⟨entries, cursor, file⟩, suggestions, mode, world, saves⟩ := s
  obtain ⟨environment', index', ⟨entries', cursor', file'⟩, suggestions', mode', world', saves'⟩ := t
  dsimp only at henv hindex hmode hworld hentries hfile hsaves
  subst henv hindex hmode hworld hentries hfile hsaves
  unfold record display
  dsimp only
  split <;> rfl

/-- A line that confirms nothing is recorded and obeyed, whatever list is on display. -/
theorem handle_eq_obey {s : Session} (h : s.suggestions.confirmed? = none) (line : String) :
    s.handle programs (.submitLine line) =
      (((s.record (Text.trim line)).obey programs (Text.trim line)).display
        s.hideSuggestions.1.suggestions).after s.hideSuggestions.2 := by
  have hhide : s.hideSuggestions.1 = s.display s.hideSuggestions.1.suggestions := by
    unfold hideSuggestions
    split <;> rfl
  have hrecord : s.hideSuggestions.1.record (Text.trim line) =
      (s.record (Text.trim line)).display s.hideSuggestions.1.suggestions := by
    rw [hhide, record_display]
    rfl
  rw [handle_unconfirmed programs h, hrecord, obey_display]

theorem index_handle (s : Session) (e : Event) :
    (s.handle programs e).session.index = s.index := by
  cases he : s.edits e with
  | true => exact (handle_of_edits programs he).2.index
  | false =>
    obtain ⟨⟨line, rfl⟩, hc⟩ := edits_eq_false_iff.1 he
    have hobey := obey_frame programs (s.record (Text.trim line)) (Text.trim line)
    rw [handle_eq_obey programs hc]
    exact hobey.1.trans (index_record s _)

theorem known_after (s : Session) (events : List Event) :
    (s.after programs events).known = s.known := by
  have hindex : (s.after programs events).index = s.index :=
    after_induction programs (fun t e h => (index_handle programs t e).trans h) rfl events
  unfold known
  rw [hindex]

/-- Two sessions that agree obey a line alike, if neither takes it for a confirmation. -/
theorem handle_submitLine_of_agree {s t : Session} (h : Agree s t)
    (hs : s.suggestions.confirmed? = none) (ht : t.suggestions.confirmed? = none)
    (line : String) :
    ∃ r : Reaction,
      s.handle programs (.submitLine line) =
        (r.display s.hideSuggestions.1.suggestions).after s.hideSuggestions.2 ∧
      t.handle programs (.submitLine line) =
        (r.display t.hideSuggestions.1.suggestions).after t.hideSuggestions.2 := by
  refine ⟨_, handle_eq_obey programs hs line, ?_⟩
  rw [handle_eq_obey programs ht, record_of_agree h, obey_display, Reaction.display_display]

end Session

end GuidedShell
