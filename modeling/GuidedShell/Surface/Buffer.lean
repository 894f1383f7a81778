import GuidedShell.Surface.Call

/-! A surface in memory, which keeps what it is told. -/
namespace GuidedShell.Surface

structure Buffer where
  /-- Everything printed since the last clear. -/
  output : String
  /-- The text last put into the input line, and whether it was selected. -/
  input : Option (String × Bool)
  suggestions : Option (List String × Option Nat)
  clears : Nat

namespace Buffer

def empty : Buffer := ⟨"", none, none, 0⟩

def apply (b : Buffer) : Call → Buffer
  | .print text => { b with output := b.output ++ text }
  | .clear => { b with output := "", clears := b.clears + 1 }
  | .setInput text selectAll => { b with input := some (text, selectAll) }
  | .showSuggestions names selected => { b with suggestions := some (names, selected) }
  | .hideSuggestions => { b with suggestions := none }

def applyAll (b : Buffer) (calls : List Call) : Buffer := calls.foldl apply b

theorem applyAll_append (b : Buffer) (first second : List Call) :
    b.applyAll (first ++ second) = (b.applyAll first).applyAll second :=
  List.foldl_append

end Buffer

end GuidedShell.Surface
