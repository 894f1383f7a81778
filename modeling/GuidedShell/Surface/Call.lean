/-! What a session tells the surface that displays it. Nothing is read back from a surface. -/
namespace GuidedShell.Surface

inductive Call where
  | print (text : String)
  | clear
  /-- Replace the input line. With `selectAll`, typing then replaces the whole text. -/
  | setInput (text : String) (selectAll : Bool)
  | showSuggestions (names : List String) (selected : Option Nat)
  | hideSuggestions
  deriving DecidableEq

end GuidedShell.Surface
