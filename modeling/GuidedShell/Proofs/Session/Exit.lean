import GuidedShell.Proofs.Session.Effects
import GuidedShell.Proofs.Session.Highlight
import GuidedShell.Proofs.Text.Trim

/-! Which events end a session, and what the shell itself does to the files. -/
namespace GuidedShell

namespace Command

/-- Of all that a command does, only one program run can change the files. -/
theorem files_dispatch_cases (programs : Programs) (s : Setting) (name : String)
    (args : List String) :
    (dispatch programs s name args).world.files = s.world.files ∨
      ∃ launch, (dispatch programs s name args).world.files =
        (programs launch s.world.files).files :=
  files_dispatch
    (fun before after => after = before ∨ ∃ launch, after = (programs launch before).files)
    (fun _ => .inl rfl) (fun launch _ => .inr ⟨launch, rfl⟩) s name args

end Command

namespace Session

variable {programs : Programs} {s : Session} {e : Event} {line : String}

/-- The session is not to end yet, and a row that is highlighted is on display. -/
structure Going (s : Session) : Prop where
  lasts : s.environment.shouldExit = false
  sound : s.suggestions.Sound

/-- The session as the command `exit` leaves it. -/
def leaving (s : Session) : Session :=
  { s with environment := { s.environment with shouldExit := true } }

@[simp] theorem world_leaving (s : Session) : s.leaving.world = s.world := rfl

@[simp] theorem history_leaving (s : Session) : s.leaving.history = s.history := rfl

theorem run_exit (programs : Programs) (s : Session) (args : List String) :
    s.run programs "exit" args = ⟨s.leaving.shutdown.1, .exit, s.leaving.shutdown.2⟩ := by
  have hdispatch : Command.dispatch programs s.setting "exit" args =
      Command.Builtin.runExit s.setting := Command.dispatch_name programs s.setting .exit args
  rw [run_eq, hdispatch]
  rfl

theorem flow_run_iff (hs : s.environment.shouldExit = false) {name : String} {args : List String} :
    (s.run programs name args).flow = .exit ↔ name = "exit" := by
  have hsetting : s.setting.environment.shouldExit = false := hs
  rw [← Command.shouldExit_dispatch_iff programs hsetting name args, run_eq]
  dsimp only
  generalize Command.dispatch programs s.setting name args = effect
  have henv : ((s.adopt effect).report name args effect.outcome).1.environment =
      effect.environment := by
    rw [report_eq]
    rfl
  rw [henv]
  split
  · rename_i h
    simp [h]
  · rename_i h
    simp [h]

theorem flow_obey_iff (hs : s.environment.shouldExit = false) :
    (s.obey programs line).flow = .exit ↔
      s.mode = .normal ∧ (Text.words line).head? = some "exit" := by
  unfold obey
  split
  · rename_i menu hmode
    rw [flow_answer, hmode]
    simp
  · rename_i hmode
    split
    · rename_i hwords
      simp [hwords]
    · rename_i name args hwords
      rw [flow_run_iff hs, hmode, hwords]
      simp

namespace Going

/-- An event ends the session just if it submits, to a session that takes commands and has no row
highlighted, a line whose first word is `exit`. -/
theorem flow_handle_iff (h : s.Going) :
    (s.handle programs e).flow = .exit ↔
      ∃ line, e = .submitLine line ∧ s.suggestions.selected = none ∧ s.mode = .normal ∧
        (Text.words line).head? = some "exit" := by
  cases he : s.edits e with
  | true =>
    rw [(handle_of_edits programs he).1]
    constructor
    · exact nofun
    · rintro ⟨line, rfl, hselected, -⟩
      have hc := h.sound.confirmed?_eq_none_iff.2 hselected
      simp [edits, hc] at he
  | false =>
    obtain ⟨⟨line, rfl⟩, hc⟩ := edits_eq_false_iff.1 he
    have hselected := h.sound.confirmed?_eq_none_iff.1 hc
    have hrecord : (s.record (Text.trim line)).environment.shouldExit = false := h.lasts
    have hflow : (s.handle programs (.submitLine line)).flow =
        ((s.record (Text.trim line)).obey programs (Text.trim line)).flow := by
      rw [handle_eq_obey programs hc]
      rfl
    rw [hflow, flow_obey_iff hrecord, mode_record, Text.words_trim]
    simp [hselected]

theorem handle (h : s.Going) (hflow : (s.handle programs e).flow = .goOn) :
    (s.handle programs e).session.Going := by
  refine ⟨?_, sound_handle programs h.sound e⟩
  cases he : s.edits e with
  | true =>
    rw [(handle_of_edits programs he).2.environment]
    exact h.lasts
  | false =>
    obtain ⟨⟨line, rfl⟩, hc⟩ := edits_eq_false_iff.1 he
    rcases handle_cases programs hc h.lasts line with ⟨-, hlasts⟩ | ⟨hexit, -⟩
    · exact hlasts
    · rw [hexit] at hflow
      cases hflow

theorem after (h : s.Going) {events : List Event}
    (hflow : ∀ t ∈ s.steps programs events, t.reaction.flow = .goOn) :
    (s.after programs events).Going :=
  after_of_steps programs (fun _ _ ht hgoing => hgoing.handle (hflow _ ht)) h

end Going

/-- The session has ended on this line. There was one attempt to save the history, with the line in
it, over the files as they were, and nothing else was done to them. The surface was told that it is
being saved and, if that failed, why. -/
structure Closes (s : Session) (line : String) (r : Reaction) : Prop where
  flow : r.flow = .exit
  history : r.session.history = (s.record (Text.trim line)).history
  once : r.session.saves = s.saves ++ [r.session.history.entries]
  here : r.session.world.here = s.world.here
  told : ∃ failure?, r.session.history.Saves s.world r.session.world.files failure? ∧
    r.calls = s.hideSuggestions.2 ++ .print "Saving history... Exiting AuraShell...\n" ::
      (failure?.map complaint).toList

theorem handle_exit (hc : s.suggestions.confirmed? = none) (hmode : s.mode = .normal)
    (hexit : (Text.words line).head? = some "exit") :
    let t := (s.record (Text.trim line)).leaving
    s.handle programs (.submitLine line) =
      (Reaction.display ⟨t.shutdown.1, .exit, t.shutdown.2⟩ s.hideSuggestions.1.suggestions).after
        s.hideSuggestions.2 := by
  intro t
  obtain ⟨args, hwords⟩ : ∃ args, Text.words (Text.trim line) = "exit" :: args := by
    rw [Text.words_trim]
    exact List.head?_eq_some_iff.1 hexit
  have hobey : (s.record (Text.trim line)).obey programs (Text.trim line) =
      ⟨t.shutdown.1, .exit, t.shutdown.2⟩ := by
    unfold obey
    rw [mode_record, hmode, hwords]
    exact run_exit programs _ args
  rw [handle_eq_obey programs hc, hobey]

theorem closes_of_shutdown {t : Session} (hworld : t.world = s.world) (hsaves : t.saves = s.saves)
    (hhistory : t.history = (s.record (Text.trim line)).history) (g : Suggestions) :
    s.Closes line
      ((Reaction.display ⟨t.shutdown.1, .exit, t.shutdown.2⟩ g).after s.hideSuggestions.2) := by
  have hkept : t.shutdown.1.history = t.history := by
    rw [shutdown_eq]
  refine ⟨rfl, hkept.trans hhistory, ?_, ?_, t.history.refusal? t.world, ?_, ?_⟩
  · have honce : t.shutdown.1.saves = t.saves ++ [t.history.entries] := by
      rw [shutdown_eq]
    rw [hsaves, ← hkept] at honce
    exact honce
  · have hhere : t.shutdown.1.world.here = t.world.here := by
      rw [shutdown_eq]
    rw [← hworld]
    exact hhere
  · have hdone := t.history.saves t.world
    rw [← t.files_shutdown] at hdone
    have hsaved : t.shutdown.1.history.Saves s.world t.shutdown.1.world.files
        (t.history.refusal? t.world) := by
      rw [hkept, ← hworld]
      exact hdone
    exact hsaved
  · exact congrArg (s.hideSuggestions.2 ++ ·) t.calls_shutdown

theorem closes_of_exit (hc : s.suggestions.confirmed? = none) (hmode : s.mode = .normal)
    (hexit : (Text.words line).head? = some "exit") :
    s.Closes line (s.handle programs (.submitLine line)) := by
  rw [handle_exit hc hmode hexit]
  exact closes_of_shutdown ((world_leaving _).trans (s.world_record _))
    (s.saves_record (Text.trim line)) (history_leaving _) _

/-- Where the session goes on, the shell itself has saved nothing. The files are as they were, or as
one program has left them, and that takes a command. -/
theorem goOn_frame (hgoes : (s.handle programs e).flow = .goOn) :
    (s.handle programs e).session.saves = s.saves ∧
      ((s.handle programs e).session.world.files = s.world.files ∨
        (s.effect? programs e).isSome ∧ ∃ launch,
          (s.handle programs e).session.world.files = (programs launch s.world.files).files) := by
  cases changes_handle programs s e with
  | still _ _ _ hworld hsaves =>
    rw [hworld]
    exact ⟨hsaves, .inl rfl⟩
  | closed _ hends =>
    rw [hgoes] at hends
    cases hends
  | obeyed heffect _ _ hworld hsaves =>
    obtain ⟨line, name, args, -, rfl⟩ := (effect?_eq_some_iff programs).1 heffect
    have hfiles :=
      Command.files_dispatch_cases programs (s.record (Text.trim line)).setting name args
    rw [hworld, heffect]
    exact ⟨hsaves, hfiles.imp_right fun hprogram => ⟨rfl, hprogram⟩⟩

/-- Until a session ends nothing is saved. -/
theorem saves_after {events : List Event}
    (hgoing : ∀ t ∈ s.steps programs events, t.reaction.flow = .goOn) :
    (s.after programs events).saves = s.saves := by
  have hstep (t : Session) (e : Event) (ht : ⟨t, e, t.handle programs e⟩ ∈ s.steps programs events)
      (hsaves : t.saves = s.saves) : (t.handle programs e).session.saves = s.saves :=
    (goOn_frame (hgoing _ ht)).1.trans hsaves
  exact after_of_steps programs hstep rfl

/-- Only `exit` ends a session, and only with it the shell writes the file of the history. In a run
that has not ended there was no attempt to save it, and an event ends the run just if it submits, to a
session that takes commands and has no row highlighted, a line whose first word is `exit`. Then there
is one attempt and the session ends, whether or not that worked. On any other event there is none,
and the files are left to programs. -/
theorem exit_alone_closes (programs : Programs) (world : World) {environment : Environment}
    (henvironment : environment.shouldExit = false) (index : CommandIndex) (history : History)
    {events : List Event}
    (hgoing : ∀ t ∈ (new world environment index history).steps programs events,
      t.reaction.flow = .goOn) (e : Event) :
    let s := (new world environment index history).after programs events
    let r := s.handle programs e
    s.saves = [] ∧
      (r.flow = .exit ↔ ∃ line, e = .submitLine line ∧ s.suggestions.selected = none ∧
        s.mode = .normal ∧ (Text.words line).head? = some "exit") ∧
      (r.flow = .exit → ∃ line, e = .submitLine line ∧ s.Closes line r) ∧
      (r.flow = .goOn → r.session.saves = [] ∧
        (r.session.world.files = s.world.files ∨
          (s.effect? programs e).isSome ∧
            ∃ launch, r.session.world.files = (programs launch s.world.files).files)) := by
  intro s r
  have hfirst : (new world environment index history).Going :=
    ⟨henvironment, Suggestions.sound_hidden⟩
  have hs : s.Going := hfirst.after hgoing
  have hsaves : s.saves = [] := saves_after hgoing
  refine ⟨hsaves, hs.flow_handle_iff, fun hexit => ?_, fun hgoes => ?_⟩
  · obtain ⟨line, rfl, hselected, hmode, hwords⟩ := hs.flow_handle_iff.1 hexit
    exact ⟨line, rfl, closes_of_exit (hs.sound.confirmed?_eq_none_iff.2 hselected) hmode hwords⟩
  · obtain ⟨hsame, hfiles⟩ := goOn_frame hgoes
    exact ⟨hsame.trans hsaves, hfiles⟩

/-- Two sessions end on `exit`. One saves its history, and the file holds it then. The other cannot,
ends all the same and says why. -/
theorem exit_alone_closes_twice :
    let start (file : String) :=
      new ⟨.empty, [], [], none⟩ ⟨[], [FilePath.slash], false⟩ .empty
        (.ofEntries ["pwd"] (some (Text.bytes file)))
    let ending (file : String) :=
      ((start file).after .idle [.submitLine "echo hi"]).handle .idle (.submitLine "exit now")
    (ending "/h").flow = .exit ∧
      (ending "/h").session.saves = [["pwd", "echo hi", "exit now"]] ∧
      (ending "/h").session.world.files.read [] (Text.bytes "/h") =
        .ok (Text.bytes "pwd\necho hi\nexit now\n") ∧
      (ending "/").flow = .exit ∧
      (ending "/").session.saves = [["pwd", "echo hi", "exit now"]] ∧
      (ending "/").calls =
        [.print "Saving history... Exiting AuraShell...\n",
          .print "Error saving history: history file /: Is a directory (os error 21)\n"] := by
  intro start ending
  have hcloses (file : String)
      (hgoes : ((start file).handle .idle (.submitLine "echo hi")).flow = .goOn) :
      ((start file).after .idle [.submitLine "echo hi"]).Closes "exit now" (ending file) := by
    have hgoing : ∀ t ∈ (start file).steps .idle [.submitLine "echo hi"],
        t.reaction.flow = .goOn := by
      intro t ht
      rw [List.mem_singleton.1 ht]
      exact hgoes
    obtain ⟨-, hiff, hcloses, -⟩ :=
      exit_alone_closes .idle ⟨.empty, [], [], none⟩ rfl .empty
        (.ofEntries ["pwd"] (some (Text.bytes file))) hgoing (.submitLine "exit now")
    have hexit := hiff.2 ⟨"exit now", rfl, rfl, rfl, by decide +kernel⟩
    obtain ⟨line, hline, hclosed⟩ := hcloses hexit
    cases hline
    exact hclosed
  have hsaved := hcloses "/h" (by decide +kernel)
  have hunsaved := hcloses "/" (by decide +kernel)
  have hentries (file : String) (hclosed : ((start file).after .idle
      [.submitLine "echo hi"]).Closes "exit now" (ending file)) :
      (ending file).session.saves = [["pwd", "echo hi", "exit now"]] := by
    rw [hclosed.once, hclosed.history]
    rfl
  exact ⟨hsaved.flow, hentries "/h" hsaved, by decide +kernel, hunsaved.flow,
    hentries "/" hunsaved, by decide +kernel⟩

end Session

end GuidedShell
