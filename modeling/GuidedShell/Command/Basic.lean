import GuidedShell.Environment
import GuidedShell.Exec.Launch
import GuidedShell.Failure
import GuidedShell.History.Basic

/-! What commands work on, and what they do. -/
namespace GuidedShell

/-- How a command came out. -/
inductive Outcome where
  | finished (code : Nat)
  /-- Nothing that could be run was found. -/
  | unresolved
  /-- The command asks for a clear screen. -/
  | clearScreen
  deriving DecidableEq

namespace Command

/-- What a command may look at and change. -/
structure Setting where
  environment : Environment
  world : World
  history : History

/-- What a command did: how it came out, what it wrote, and what it left changed. -/
structure Effect where
  outcome : Except Failure Outcome
  output : Bytes
  environment : Environment
  world : World

/-- A command that leaves everything as it was. -/
def Setting.effect (s : Setting) (outcome : Except Failure Outcome) (output : String) : Effect :=
  ⟨outcome, Text.bytes output, s.environment, s.world⟩

end Command

end GuidedShell
