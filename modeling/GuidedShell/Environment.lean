import GuidedShell.World

/-! The state of a session that commands may read and change. -/
namespace GuidedShell

structure Environment where
  vars : Vars
  currentDir : FilePath
  shouldExit : Bool

namespace Environment

/-- A variable of the session, or of the world where the session has none. -/
def var? (env : Environment) (w : World) (name : String) : Option String :=
  env.vars.get? name <|> w.vars.get? name

/-- The home directory: the variable `HOME` unless it is empty, then the world's. -/
def home? (env : Environment) (w : World) : Option FilePath :=
  match (env.var? w "HOME").filter (!·.isEmpty) <|> (w.vars.get? "HOME").filter (!·.isEmpty) with
  | some home => some (Text.bytes home)
  | none => w.home?

def childVars (env : Environment) (w : World) : Vars := env.vars.shadowing w.vars

end Environment

end GuidedShell
