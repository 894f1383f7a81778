import GuidedShell.Surface.Call
import GuidedShell.Terminal.Hint

/-! The surface on a terminal: what has been written, and what the line editor draws next. -/
namespace GuidedShell.Terminal

structure Display where
  written : String
  /-- What was written last ended its line. -/
  atLineStart : Bool
  /-- Text for the input line that the editor has not taken yet. -/
  pendingInput : Option String
  suggestions : Option (List String × Option Nat)

namespace Display

open Surface

def empty : Display := ⟨"", true, none, none⟩

/-- What wipes the screen and puts the cursor into its corner. -/
def clearSequence : String := "\x1b[2J\x1b[H"

def print (d : Display) (text : String) : Display :=
  if text.isEmpty then d
  else { d with written := d.written ++ text, atLineStart := Text.endsWith text "\n" }

def apply (d : Display) : Call → Display
  | .print text => d.print text
  | .clear => { d with written := d.written ++ clearSequence, atLineStart := true }
  | .setInput text _ => { d with pendingInput := some text }
  | .showSuggestions names selected => { d with suggestions := some (names, selected) }
  | .hideSuggestions => { d with suggestions := none }

def applyAll (d : Display) (calls : List Call) : Display := calls.foldl apply d

theorem applyAll_append (d : Display) (first second : List Call) :
    d.applyAll (first ++ second) = (d.applyAll first).applyAll second :=
  List.foldl_append

/-- Go on at the start of a line. -/
def finishLine (d : Display) : Display := if d.atLineStart then d else d.print "\n"

/-- The line to draw after the input. -/
def hint? (d : Display) : Option String := d.suggestions.map fun l => hint l.1 l.2

end Display

end GuidedShell.Terminal
