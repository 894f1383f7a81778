import GuidedShell.Terminal.Display
import Mathlib.Data.List.Induction

/-! What a terminal has written is what it was told to write, and it knows whether the last print has
left its line open. -/
namespace GuidedShell

theorem Text.endsWith_append (s : String) {t back : String} (h : endsWith t back = true) :
    endsWith (s ++ t) back = true := by
  unfold endsWith at h ⊢
  rw [List.isSuffixOf_iff_suffix] at h ⊢
  rw [String.toList_append]
  exact List.suffix_append_of_suffix h

/-- What a call writes. -/
def Surface.Call.written : Surface.Call → String
  | .print text => text
  | .clear => Terminal.Display.clearSequence
  | .setInput .. | .showSuggestions .. | .hideSuggestions => ""

namespace Terminal

open Surface

/-- The text ends a line, or it wipes the screen last. -/
def EndsLine (s : String) : Prop :=
  Text.endsWith s "\n" = true ∨ Text.endsWith s Display.clearSequence = true

theorem EndsLine.append (s : String) {t : String} (h : EndsLine t) : EndsLine (s ++ t) :=
  h.imp (Text.endsWith_append s) (Text.endsWith_append s)

/-- What these calls write, one after another. -/
def written (calls : List Call) : String := String.join (calls.map Call.written)

theorem written_append (first second : List Call) :
    written (first ++ second) = written first ++ written second := by
  simp [written]

/-- The last of the calls that write anything is a print that does not end its line. -/
def leavesOpen (calls : List Call) : Bool :=
  match (calls.filter fun c => !c.written.isEmpty).getLast? with
  | some (.print text) => !Text.endsWith text "\n"
  | _ => false

theorem leavesOpen_concat_of_silent (calls : List Call) {c : Call} (h : c.written = "") :
    leavesOpen (calls ++ [c]) = leavesOpen calls := by
  simp [leavesOpen, h]

theorem leavesOpen_concat_print (calls : List Call) {text : String} (h : text ≠ "") :
    leavesOpen (calls ++ [.print text]) = !Text.endsWith text "\n" := by
  simp [leavesOpen, Call.written, h]

theorem leavesOpen_concat_clear (calls : List Call) : leavesOpen (calls ++ [.clear]) = false := by
  have hclear : Display.clearSequence ≠ "" := by decide
  simp [leavesOpen, Call.written, hclear]

/-- What goes in before a line is read, so that it is read at the start of a line. -/
def lineBreak (calls : List Call) : String := if leavesOpen calls then "\n" else ""

/-- What has been written when these calls have been made, and then one group after another with a
line read before each. -/
def transcript (calls : List Call) : List (List Call) → String
  | [] => written calls
  | next :: rest => written calls ++ lineBreak calls ++ transcript next rest

theorem transcript_concat (calls : List Call) (groups : List (List Call)) (last : List Call) :
    transcript calls (groups ++ [last]) =
      transcript calls groups ++ lineBreak (groups.getLastD calls) ++ written last := by
  induction groups generalizing calls with
  | nil => rfl
  | cons next rest ih =>
    have hlast : (next :: rest).getLastD calls = rest.getLastD next := by
      cases rest <;> rfl
    rw [List.cons_append, transcript, ih, hlast, transcript]
    simp only [String.append_assoc]

namespace Display

theorem atLineStart_finishLine (d : Display) : d.finishLine.atLineStart = true := by
  unfold finishLine
  split
  · assumption
  · rfl

theorem finishLine_of_atLineStart {d : Display} (h : d.atLineStart = true) : d.finishLine = d :=
  if_pos h

theorem written_finishLine (d : Display) :
    d.finishLine.written = d.written ++ if d.atLineStart then "" else "\n" := by
  unfold finishLine
  split
  · exact String.append_empty.symm
  · rfl

theorem print_of_ne {text : String} (h : text ≠ "") (d : Display) :
    d.print text =
      { d with written := d.written ++ text, atLineStart := Text.endsWith text "\n" } := by
  simp [print, h]

theorem applyAll_concat (d : Display) (calls : List Call) (c : Call) :
    d.applyAll (calls ++ [c]) = (d.applyAll calls).apply c := d.applyAll_append calls [c]

theorem written_apply (d : Display) (c : Call) : (d.apply c).written = d.written ++ c.written := by
  cases c with
  | print text =>
    by_cases h : text = ""
    · subst h
      exact String.append_empty.symm
    · exact congrArg Display.written (print_of_ne h d)
  | clear => rfl
  | setInput | showSuggestions | hideSuggestions => exact String.append_empty.symm

theorem written_applyAll (d : Display) (calls : List Call) :
    (d.applyAll calls).written = d.written ++ Terminal.written calls := by
  induction calls using List.reverseRecOn with
  | nil => exact String.append_empty.symm
  | append_singleton calls c ih =>
    have hone : Terminal.written [c] = c.written := by simp [Terminal.written]
    rw [applyAll_concat, written_apply, ih, written_append, hone, String.append_assoc]

/-- From the start of a line, the terminal knows whether the calls have left one open. -/
theorem atLineStart_applyAll {d : Display} (h : d.atLineStart = true) (calls : List Call) :
    (d.applyAll calls).atLineStart = !leavesOpen calls := by
  induction calls using List.reverseRecOn with
  | nil => exact h
  | append_singleton calls c ih =>
    rw [applyAll_concat]
    cases c with
    | print text =>
      by_cases hempty : text = ""
      · subst hempty
        rw [leavesOpen_concat_of_silent calls rfl]
        exact ih
      · rw [leavesOpen_concat_print calls hempty, Bool.not_not]
        exact congrArg Display.atLineStart (print_of_ne hempty _)
    | clear =>
      rw [leavesOpen_concat_clear]
      rfl
    | setInput | showSuggestions | hideSuggestions =>
      rw [leavesOpen_concat_of_silent calls rfl]
      exact ih

/-- When the terminal takes itself to be at the start of a line, it is. -/
def Fresh (d : Display) : Prop := d.atLineStart = true → EndsLine d.written

theorem fresh_print {text : String} (h : text ≠ "") (d : Display) : (d.print text).Fresh := by
  rw [print_of_ne h]
  exact fun hend => .append d.written (.inl hend)

theorem Fresh.apply {d : Display} (h : d.Fresh) (c : Call) : (d.apply c).Fresh := by
  cases c with
  | print text =>
    by_cases hempty : text = ""
    · subst hempty
      exact h
    · exact fresh_print hempty d
  | clear =>
    have hself : EndsLine clearSequence := .inr (by decide)
    exact fun _ => .append d.written hself
  | setInput | showSuggestions | hideSuggestions => exact h

theorem Fresh.applyAll {d : Display} (h : d.Fresh) (calls : List Call) :
    (d.applyAll calls).Fresh := by
  induction calls generalizing d with
  | nil => exact h
  | cons c calls ih => exact ih (h.apply c)

theorem Fresh.finishLine {d : Display} (h : d.Fresh) : d.finishLine.Fresh := by
  unfold Display.finishLine
  split
  · exact h
  · exact fresh_print (by decide) d

end Display

end Terminal

end GuidedShell
