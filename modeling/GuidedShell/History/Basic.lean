import GuidedShell.FilePath.Basic

/-! The lines submitted so far, and a cursor that walks over them. -/
namespace GuidedShell

/-- Lines in the order in which they were submitted. The cursor stands on one of them, or on the
blank line after the newest. -/
structure History where
  entries : List String
  cursor : Nat
  /-- Where the history is kept between sessions. -/
  file? : Option FilePath

namespace History

def ofEntries (entries : List String) (file? : Option FilePath) : History :=
  ⟨entries, entries.length, file?⟩

def empty : History := ofEntries [] none

def resetCursor (h : History) : History := { h with cursor := h.entries.length }

def append (h : History) (line : String) : History :=
  ofEntries (h.entries ++ [line]) h.file?

def back (h : History) : History := { h with cursor := h.cursor - 1 }

def forward (h : History) : History :=
  if h.cursor < h.entries.length then { h with cursor := h.cursor + 1 } else h

def current (h : History) : String := h.entries.getD h.cursor ""

@[simp] theorem entries_append (h : History) (line : String) :
    (h.append line).entries = h.entries ++ [line] := rfl

@[simp] theorem cursor_append (h : History) (line : String) :
    (h.append line).cursor = (h.append line).entries.length := rfl

@[simp] theorem entries_resetCursor (h : History) : h.resetCursor.entries = h.entries := rfl

@[simp] theorem cursor_resetCursor (h : History) : h.resetCursor.cursor = h.entries.length := rfl

@[simp] theorem entries_back (h : History) : h.back.entries = h.entries := rfl

@[simp] theorem entries_forward (h : History) : h.forward.entries = h.entries := by
  unfold forward
  split <;> rfl

theorem cursor_forward_le {h : History} (hc : h.cursor ≤ h.entries.length) :
    h.forward.cursor ≤ h.entries.length := by
  unfold forward
  split
  · assumption
  · exact hc

end History

end GuidedShell
