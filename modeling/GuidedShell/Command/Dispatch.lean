import GuidedShell.Command.Builtin
import GuidedShell.Command.External

/-! From a command line's words to a command. -/
namespace GuidedShell.Command

/-- Builtins come first, then programs. -/
def dispatch? (programs : Programs) (s : Setting) (name : String) (args : List String) :
    Option Effect :=
  match Builtin.ofName? name with
  | some b => some (b.run programs args s)
  | none => (External.accept? s name).map fun program => External.run programs s program name args

/-- A name that is neither is unresolved. -/
def dispatch (programs : Programs) (s : Setting) (name : String) (args : List String) : Effect :=
  (dispatch? programs s name args).getD (s.effect (.ok .unresolved) "")

end GuidedShell.Command
