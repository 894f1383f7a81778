import GuidedShell.Command.Dispatch
import GuidedShell.CommandIndex

/-! The commands of a session as a list of factories, which are asked one after another. -/
namespace GuidedShell.Command

structure Factory where
  /-- The name of the builtin that it makes, if it makes one. -/
  builtin? : Option String
  /-- Make a command for a name and its arguments, if they are for it, and run the command. It may
  look at the names of the builtins and at the index besides its setting. -/
  run? : (builtins : List String) → CommandIndex → Setting → (name : String) →
    (args : List String) → Option Effect

namespace Factory

/-- The names of the builtins, in the order of their factories. -/
def builtins (commands : List Factory) : List String := commands.filterMap (·.builtin?)

/-- The first factory that makes a command has made the one that runs. A name for which none does is
unresolved. -/
def dispatch (commands : List Factory) (index : CommandIndex) (s : Setting) (name : String)
    (args : List String) : Effect :=
  (commands.findSome? fun f => f.run? (builtins commands) index s name args).getD
    (s.effect (.ok .unresolved) "")

def ofBuiltin (programs : Programs) (b : Builtin) : Factory where
  builtin? := some b.name
  run? _ _ s name args := if b.name = name then some (b.run programs args s) else none

def ofPrograms (programs : Programs) : Factory where
  builtin? := none
  run? _ _ s name args :=
    (External.accept? s name).map fun program => External.run programs s program name args

/-- The builtins, and then the programs. -/
def standard (programs : Programs) : List Factory :=
  Builtin.all.map (ofBuiltin programs) ++ [ofPrograms programs]

theorem dispatch_standard (programs : Programs) (index : CommandIndex) (s : Setting)
    (name : String) (args : List String) :
    dispatch (standard programs) index s name args = Command.dispatch programs s name args := by
  have hbuiltins (bs : List Builtin) (names : List String) :
      (bs.map (ofBuiltin programs)).findSome? (fun f => f.run? names index s name args) =
        (bs.find? (·.name == name)).map (·.run programs args s) := by
    induction bs with
    | nil => rfl
    | cons b bs ih =>
      by_cases hb : b.name = name
      · simp [ofBuiltin, hb]
      · simp [ofBuiltin, hb, ← ih]
  unfold dispatch Command.dispatch dispatch? standard Builtin.ofName?
  rw [List.findSome?_append, hbuiltins]
  cases Builtin.all.find? (·.name == name) with
  | none => simp [ofPrograms]
  | some b => rfl

end Factory

end GuidedShell.Command
