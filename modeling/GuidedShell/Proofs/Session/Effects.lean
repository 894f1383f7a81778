import GuidedShell.Proofs.Session.Closing
import GuidedShell.Proofs.Session.Log

/-! What an event does to the world: what the command does that it brings about, and perhaps the
history is saved after that. -/
namespace GuidedShell

section Dispatch

variable {programs : Programs} (Keeps : FileSystem → FileSystem → Prop)

theorem World.files_locate (hrefl : ∀ files, Keeps files files)
    (hprograms : ∀ launch files, Keeps files (programs launch files).files) (w : World)
    (name : String) : Keeps w.files (w.locate programs name).2 := by
  unfold locate
  split
  · exact hrefl _
  · exact hprograms _ _

/-- A command does nothing to the files that no program does. -/
theorem Command.files_dispatch (hrefl : ∀ files, Keeps files files)
    (hprograms : ∀ launch files, Keeps files (programs launch files).files) (s : Setting)
    (name : String) (args : List String) :
    Keeps s.world.files (dispatch programs s name args).world.files := by
  unfold dispatch dispatch?
  split
  · rename_i b _
    rw [Option.getD_some]
    cases b with
    | exit | echo | pwd | history | clear | help => exact hrefl _
    | type =>
      simp only [Builtin.run, Builtin.runType]
      split
      · exact hrefl _
      · rename_i n _
        have hlocate := World.files_locate Keeps hrefl hprograms s.world n
        split
        · exact hrefl _
        · split
          · exact hlocate
          · exact hlocate
    | cd =>
      simp only [Builtin.run, Builtin.runCd]
      split
      · exact hrefl _
      · exact hrefl _
  · cases External.accept? s name with
    | none => exact hrefl _
    | some program =>
      simp only [Option.map_some, Option.getD_some, External.run]
      split
      · unfold External.settle
        dsimp only
        split
        · exact hprograms _ _
        · exact hprograms _ _
      · exact hrefl _
      · exact hrefl _

end Dispatch

namespace Session

variable (programs : Programs)

/-- What the command does that an event brings about, if it brings about one. -/
def effect? (s : Session) : Event → Option Command.Effect
  | .submitLine line =>
    match s.suggestions.confirmed?, s.mode, Text.words (Text.trim line) with
    | none, .normal, name :: args =>
      some (Command.dispatch programs (s.record (Text.trim line)).setting name args)
    | _, _, _ => none
  | .textChanged _ | .navigateKey _ => none

/-- The event is a line that this session takes for a command of this name with these words after
it. -/
structure Obeys (s : Session) (e : Event) (line name : String) (args : List String) : Prop where
  event : e = .submitLine line
  unconfirmed : s.suggestions.confirmed? = none
  normal : s.mode = .normal
  words : Text.words (Text.trim line) = name :: args

theorem Obeys.unique {s : Session} {e : Event} {line line' name name' : String}
    {args args' : List String} (h : s.Obeys e line name args) (h' : s.Obeys e line' name' args') :
    line = line' ∧ name = name' ∧ args = args' := by
  have hline : line = line' := by
    have hevent := h.event.symm.trans h'.event
    cases hevent
    rfl
  subst hline
  obtain ⟨hname, hargs⟩ := List.cons.inj (h.words.symm.trans h'.words)
  exact ⟨rfl, hname, hargs⟩

theorem effect?_eq_some_iff {s : Session} {e : Event} {effect : Command.Effect} :
    s.effect? programs e = some effect ↔ ∃ line name args, s.Obeys e line name args ∧
      effect = Command.dispatch programs (s.record (Text.trim line)).setting name args := by
  constructor
  · intro h
    cases e with
    | textChanged | navigateKey => cases h
    | submitLine line =>
      simp only [effect?] at h
      split at h
      · rename_i name args hc hmode hwords
        exact ⟨line, name, args, ⟨rfl, hc, hmode, hwords⟩, (Option.some.inj h).symm⟩
      · cases h
  · rintro ⟨line, name, args, ⟨rfl, hc, hmode, hwords⟩, rfl⟩
    simp only [effect?, hc, hmode, hwords]

theorem world_record (s : Session) (line : String) : (s.record line).world = s.world := rfl

theorem environment_record (s : Session) (line : String) :
    (s.record line).environment = s.environment := rfl

theorem saves_record (s : Session) (line : String) : (s.record line).saves = s.saves := rfl

/-- How an event changes the world and the environment, and whether the history is saved. -/
inductive Changes (s : Session) (e : Event) (r : Reaction) : Prop
  | still (heffect : s.effect? programs e = none) (flow : r.flow = .goOn)
    (environment : r.session.environment = s.environment) (world : r.session.world = s.world)
    (saves : r.session.saves = s.saves)
  | obeyed {effect} (heffect : s.effect? programs e = some effect) (flow : r.flow = .goOn)
    (environment : r.session.environment = effect.environment)
    (world : r.session.world = effect.world) (saves : r.session.saves = s.saves)
  | closed {effect} (heffect : s.effect? programs e = some effect) (flow : r.flow = .exit)
    (environment : r.session.environment = effect.environment)
    (world : r.session.world =
      { effect.world with files := r.session.history.kept effect.world })
    (saves : r.session.saves = s.saves ++ [r.session.history.entries])

/-- A command leaves the world as its effect says, but for the history that is saved there, once, if
the session ends. -/
theorem run_effect (s : Session) (name : String) (args : List String) :
    let effect := Command.dispatch programs s.setting name args
    let r := s.run programs name args
    r.session.environment = effect.environment ∧
      (r.flow = .goOn ∧ r.session.world = effect.world ∧ r.session.saves = s.saves ∨
        r.flow = .exit ∧
          r.session.world = { effect.world with files := s.history.kept effect.world } ∧
          r.session.saves = s.saves ++ [s.history.entries]) := by
  intro effect r
  have hreport := (s.adopt effect).report_eq name args effect.outcome
  have hr : r = s.run programs name args := rfl
  rw [run_eq] at hr
  dsimp only at hr
  generalize (s.adopt effect).report name args effect.outcome = told at hreport hr
  have henvironment : told.1.environment = effect.environment := by
    rw [hreport]
    rfl
  have hworld : told.1.world = effect.world := by
    rw [hreport]
    rfl
  have hhistory : told.1.history = s.history := by
    rw [hreport]
    rfl
  have hsaves : told.1.saves = s.saves := by
    rw [hreport]
    rfl
  split at hr
  · rw [hr]
    refine ⟨?_, .inr ⟨rfl, ?_, ?_⟩⟩
    · rw [shutdown_eq]
      exact henvironment
    · have hshutdown := congrArg Session.world told.1.shutdown_eq
      rw [files_shutdown, hworld, hhistory] at hshutdown
      exact hshutdown
    · rw [shutdown_eq, ← hsaves, ← hhistory]
  · rw [hr]
    exact ⟨henvironment, .inl ⟨rfl, hworld, hsaves⟩⟩

theorem flow_answer (s : Session) (menu : Correction) (line : String) :
    (s.answer menu line).flow = .goOn := by
  unfold answer
  dsimp only
  split <;> rfl

/-- An event changes the world as the command does that it brings about, if it brings about one, and
if it ends the session, the history is saved after that. -/
theorem changes_handle (s : Session) (e : Event) : s.Changes programs e (s.handle programs e) := by
  cases he : s.edits e with
  | true =>
    obtain ⟨hflow, hagree⟩ := handle_of_edits programs he
    refine .still ?_ hflow hagree.environment hagree.world hagree.saves
    cases e with
    | textChanged | navigateKey => rfl
    | submitLine line =>
      obtain ⟨text, hc⟩ := Option.isSome_iff_exists.1 he
      simp only [effect?, hc]
  | false =>
    obtain ⟨⟨line, rfl⟩, hc⟩ := edits_eq_false_iff.1 he
    have hhistory := history_handle programs hc line
    have hreact := handle_eq_obey programs hc line
    generalize s.handle programs (.submitLine line) = r at hhistory hreact ⊢
    generalize hreply : Text.trim line = reply at hhistory hreact
    unfold obey at hreact
    rw [mode_record] at hreact
    cases hmode : s.mode with
    | awaitingCorrection menu =>
      rw [hmode] at hreact
      dsimp only at hreact
      have hanswer := (s.record reply).answer_session menu reply
      have hgoes := (s.record reply).flow_answer menu reply
      generalize (s.record reply).answer menu reply = answered at hreact hanswer hgoes
      subst hreact
      refine .still (by simp only [effect?, hc, hmode]) hgoes ?_ ?_ ?_
      · exact (congrArg Session.environment hanswer).trans (s.environment_record reply)
      · exact (congrArg Session.world hanswer).trans (s.world_record reply)
      · exact (congrArg Session.saves hanswer).trans (s.saves_record reply)
    | normal =>
      rw [hmode] at hreact
      dsimp only at hreact
      cases hwords : Text.words reply with
      | nil =>
        rw [hwords] at hreact
        subst hreact
        exact .still (by simp only [effect?, hc, hmode, hreply, hwords]) rfl
          (s.environment_record reply) (s.world_record reply) (s.saves_record reply)
      | cons name args =>
        rw [hwords] at hreact
        dsimp only at hreact
        have heffect : s.effect? programs (.submitLine line) =
            some (Command.dispatch programs (s.record reply).setting name args) := by
          simp only [effect?, hc, hmode, hreply, hwords]
        obtain ⟨henvironment, hleft⟩ := run_effect programs (s.record reply) name args
        generalize (s.record reply).run programs name args = ran at hreact henvironment hleft
        subst hreact
        rcases hleft with ⟨hgoes, hworld, hsaves⟩ | ⟨hends, hworld, hsaves⟩
        · exact .obeyed heffect hgoes henvironment hworld hsaves
        · rw [← hhistory] at hworld hsaves
          exact .closed heffect hends henvironment hworld hsaves

end Session

end GuidedShell
