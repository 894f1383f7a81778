import GuidedShell.Command.External
import GuidedShell.Proofs.Exec.Missing
import GuidedShell.Proofs.Session.Run
import Mathlib.Tactic.Common

/-! How programs come out as commands. What could not be resolved is told from what failed otherwise
by the fault of the launch alone, or by what a program that failed has said. -/
namespace GuidedShell.Command.External

variable {programs : Programs} {s : Setting} {p : FilePath} {name : String} {args : List String}

/-- The program has failed, and has said that something was not found. -/
def FailsAsMissing (done : Completion) : Prop :=
  done.ending ≠ .exited 0 ∧ ∃ m ∈ notFoundMarkers,
    m.toList <:+: (Text.lower (Text.ofBytesLossy done.stderr)).toList

theorem failsAsMissing_iff {done : Completion} : FailsAsMissing done ↔
    (!done.ending.isSuccess && reportsMissingProgram done.stderr) = true := by
  simp [FailsAsMissing, Ending.isSuccess, reportsMissingProgram, hasInfix_iff]

theorem settle_of_failsAsMissing {done : Completion} (h : FailsAsMissing done) :
    (settle s done).outcome = .ok .unresolved ∧ (settle s done).output = [] := by
  unfold settle
  rw [if_pos (failsAsMissing_iff.1 h)]
  exact ⟨rfl, rfl⟩

theorem settle_of_not_failsAsMissing {done : Completion} (h : ¬FailsAsMissing done) :
    (settle s done).outcome = .ok (.finished done.ending.code) ∧
      (settle s done).output = done.stdout ++ done.stderr := by
  unfold settle
  rw [if_neg (mt failsAsMissing_iff.2 h)]
  exact ⟨rfl, rfl⟩

/-- The program runs, and fails for want of something by its own account. -/
def ReportsMissing (programs : Programs) (s : Setting) (p : FilePath) (args : List String) : Prop :=
  ∃ l, launch s p args = .ok l ∧ FailsAsMissing (programs l s.world.files)

/-- The launch fails for want of something, or the program does by its own account. -/
def Missing (programs : Programs) (s : Setting) (p : FilePath) (args : List String) : Prop :=
  launch s p args = .error .notFound ∨ ReportsMissing programs s p args

/-- What can come of a program: nothing was found, the launch failed for another reason, or the
program has finished. -/
theorem run_cases (programs : Programs) (s : Setting) (p : FilePath) (name : String)
    (args : List String) :
    let e := run programs s p name args
    (Missing programs s p args ∧ e.outcome = .ok .unresolved ∧ e.output = []) ∨
    (∃ fault, launch s p args = .error fault ∧ fault ≠ .notFound ∧
      e.outcome = .error (.spawn name fault) ∧ e.output = []) ∨
    ∃ l, launch s p args = .ok l ∧
      let done := programs l s.world.files
      ¬FailsAsMissing done ∧ e.outcome = .ok (.finished done.ending.code) ∧
        e.output = done.stdout ++ done.stderr := by
  dsimp only [run]
  cases hlaunch : launch s p args with
  | ok l =>
    by_cases hfails : FailsAsMissing (programs l s.world.files)
    · exact .inl ⟨.inr ⟨l, hlaunch, hfails⟩, settle_of_failsAsMissing hfails⟩
    · exact .inr (.inr ⟨l, rfl, hfails, settle_of_not_failsAsMissing hfails⟩)
  | error fault =>
    by_cases hfault : fault = .notFound
    · subst hfault
      exact .inl ⟨.inl hlaunch, rfl, rfl⟩
    · refine .inr (.inl ⟨fault, rfl, hfault, ?_⟩)
      cases fault with
      | notFound => exact absurd rfl hfault
      | _ => exact ⟨rfl, rfl⟩

end GuidedShell.Command.External
