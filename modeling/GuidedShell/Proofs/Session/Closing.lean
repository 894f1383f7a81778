import GuidedShell.Proofs.FileSystem.Writing
import GuidedShell.Proofs.Session.Submission

/-! How a session ends: only `exit` ends it, and then the history is saved with that line in it. -/
namespace GuidedShell

namespace Command

theorem External.environment_run (programs : Programs) (s : Setting) (program : FilePath)
    (name : String) (args : List String) :
    (External.run programs s program name args).environment = s.environment := by
  unfold External.run
  split
  · unfold External.settle
    dsimp only
    split <;> rfl
  · rfl
  · rfl

theorem Builtin.shouldExit_run (programs : Programs) {b : Builtin} (hb : b ≠ .exit)
    (args : List String) (s : Setting) :
    (b.run programs args s).environment.shouldExit = s.environment.shouldExit := by
  cases b with
  | exit => exact absurd rfl hb
  | echo | pwd | history | clear | help => rfl
  | type =>
    simp only [run, runType]
    split
    · rfl
    · split
      · rfl
      · split <;> rfl
  | cd =>
    simp only [run, runCd]
    split <;> rfl

theorem Builtin.ofName?_eq_some_iff {name : String} {b : Builtin} :
    ofName? name = some b ↔ name = b.name := by
  constructor
  · intro h
    unfold ofName? at h
    have hname := List.find?_some h
    exact (eq_of_beq hname).symm
  · rintro rfl
    cases b <;> rfl

theorem dispatch_name (programs : Programs) (s : Setting) (b : Builtin) (args : List String) :
    dispatch programs s b.name args = b.run programs args s := by
  have hb : Builtin.ofName? b.name = some b := Builtin.ofName?_eq_some_iff.2 rfl
  unfold dispatch dispatch?
  rw [hb]
  rfl

/-- The word `exit` asks the session to end, and no other name does. -/
theorem shouldExit_dispatch_iff (programs : Programs) {s : Setting}
    (hs : s.environment.shouldExit = false) (name : String) (args : List String) :
    (dispatch programs s name args).environment.shouldExit = true ↔ name = "exit" := by
  constructor
  · intro h
    unfold dispatch dispatch? at h
    cases hb : Builtin.ofName? name with
    | some b =>
      simp only [hb, Option.getD_some] at h
      by_cases hexit : b = .exit
      · rw [Builtin.ofName?_eq_some_iff.1 hb, hexit]
        rfl
      · rw [b.shouldExit_run programs hexit, hs] at h
        cases h
    | none =>
      simp only [hb] at h
      cases haccept : External.accept? s name with
      | none =>
        simp only [haccept, Option.map_none, Option.getD_none, Setting.effect, hs] at h
        cases h
      | some program =>
        simp only [haccept, Option.map_some, Option.getD_some, External.environment_run, hs] at h
        cases h
  · rintro rfl
    exact congrArg (·.environment.shouldExit) (dispatch_name programs s .exit args)

/-- Only `exit` asks the session to end, and it does nothing else. -/
theorem dispatch_of_shouldExit {programs : Programs} {s : Setting} {name : String}
    {args : List String} (hs : s.environment.shouldExit = false)
    (h : (dispatch programs s name args).environment.shouldExit = true) :
    dispatch programs s name args = Builtin.runExit s := by
  rw [(shouldExit_dispatch_iff programs hs name args).1 h]
  exact dispatch_name programs s .exit args

end Command

/-- The tree after the history has been saved there, or has not. -/
def History.kept (h : History) (w : World) : FileSystem :=
  match h.save w.files w.here with
  | .ok files => files
  | .error _ => w.files

theorem History.kept_eq {h : History} {file : FilePath} (hfile : h.file? = some file) (w : World) :
    h.kept w = w.files.afterWrite w.here file (render h.entries) := by
  unfold kept save FileSystem.afterWrite
  rw [hfile]
  dsimp only
  cases w.files.write w.here file (render h.entries) <;> rfl

/-- What went wrong when the history was to be saved there. -/
def History.refusal? (h : History) (w : World) : Option Failure :=
  match h.save w.files w.here with
  | .ok _ => none
  | .error failure => some failure

/-- What can come of saving a history: which files there are then, and what went wrong. -/
inductive History.Saves (h : History) (w : World) : FileSystem → Option Failure → Prop
  /-- It has no file. -/
  | nowhere (unnamed : h.file? = none) : Saves h w w.files none
  | written {file files} (named : h.file? = some file)
    (writes : w.files.Writes w.here file (render h.entries) (.ok files)) : Saves h w files none
  | refused {file fault} (named : h.file? = some file)
    (writes : w.files.Writes w.here file (render h.entries) (.error fault)) :
    Saves h w w.files (some (.history file fault))

theorem History.saves (h : History) (w : World) : h.Saves w (h.kept w) (h.refusal? w) := by
  unfold kept refusal? save
  cases hfile : h.file? with
  | none => exact .nowhere hfile
  | some file =>
    dsimp only
    have hwrites := w.files.writes w.here file (render h.entries)
    generalize w.files.write w.here file (render h.entries) = written at hwrites ⊢
    cases written with
    | ok files => exact .written hfile hwrites
    | error fault => exact .refused hfile hwrites

namespace Session

variable (programs : Programs)

theorem files_shutdown (s : Session) : s.shutdown.1.world.files = s.history.kept s.world := by
  unfold shutdown save History.kept
  dsimp only
  cases s.history.save s.world.files s.world.here <;> rfl

theorem calls_shutdown (s : Session) :
    s.shutdown.2 = .print "Saving history... Exiting AuraShell...\n" ::
      ((s.history.refusal? s.world).map complaint).toList := by
  unfold shutdown save History.refusal?
  dsimp only
  cases s.history.save s.world.files s.world.here <;> rfl

/-- A command either goes on, or it is `exit`, and the history is saved. -/
theorem run_cases {s : Session} (hs : s.environment.shouldExit = false) (name : String)
    (args : List String) :
    ((s.run programs name args).flow = .goOn ∧
        (s.run programs name args).session.environment.shouldExit = false) ∨
      (s.run programs name args).flow = .exit ∧
        (s.run programs name args).session.world.files = s.history.kept s.world := by
  rw [run_eq]
  dsimp only
  generalize heffect : Command.dispatch programs s.setting name args = effect
  have henv : ((s.adopt effect).report name args effect.outcome).1.environment =
      effect.environment := by
    rw [report_eq]
    rfl
  split
  · rename_i h
    rw [henv] at h
    have hexit : Command.dispatch programs s.setting name args =
        Command.Builtin.runExit s.setting := Command.dispatch_of_shouldExit hs (heffect ▸ h)
    rw [heffect] at hexit
    subst hexit
    exact .inr ⟨rfl, files_shutdown _⟩
  · rename_i h
    exact .inl ⟨rfl, by simpa using h⟩

theorem obey_cases {s : Session} (hs : s.environment.shouldExit = false) (line : String) :
    ((s.obey programs line).flow = .goOn ∧
        (s.obey programs line).session.environment.shouldExit = false) ∨
      (s.obey programs line).flow = .exit ∧
        (s.obey programs line).session.world.files = s.history.kept s.world := by
  unfold obey
  split
  · left
    constructor
    · unfold answer
      dsimp only
      split <;> rfl
    · rw [answer_session]
      exact hs
  · split
    · exact .inl ⟨rfl, hs⟩
    · exact run_cases programs hs _ _

/-- A submission that confirms nothing either goes on, or it ends the session, and the history is
saved with the line in it. -/
theorem handle_cases {s : Session} (hc : s.suggestions.confirmed? = none)
    (hs : s.environment.shouldExit = false) (line : String) :
    let r := s.handle programs (.submitLine line)
    (r.flow = .goOn ∧ r.session.environment.shouldExit = false) ∨
      r.flow = .exit ∧
        r.session.world.files = (s.record (Text.trim line)).history.kept s.world := by
  have hreact := handle_eq_obey programs hc line
  generalize Text.trim line = reply at hreact ⊢
  have hrecord : (s.record reply).environment.shouldExit = false := hs
  have hcases := obey_cases programs hrecord reply
  dsimp only
  rw [hreact]
  exact hcases

theorem world_handle_blank {s : Session} (hc : s.suggestions.confirmed? = none) {line : String}
    (hline : Text.trim line = "") :
    (s.handle programs (.submitLine line)).session.world = s.world := by
  rw [handle_eq_obey programs hc, hline]
  have hobey : ((s.record "").obey programs "").session.world = s.world := by
    unfold obey
    split
    · rw [answer_session]
      rfl
    · have hwords : Text.words "" = [] := by rfl
      rw [hwords]
      rfl
  exact hobey

end Session

end GuidedShell
