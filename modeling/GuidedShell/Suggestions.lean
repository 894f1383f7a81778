import GuidedShell.Text

/-! Live completion of the command name that is being typed. -/
namespace GuidedShell

/-- The names on display and the row that is highlighted. -/
structure Suggestions where
  shown : List String
  selected : Option Nat
  deriving DecidableEq

namespace Suggestions

inductive Move where
  | forward | backward
  deriving DecidableEq

def hidden : Suggestions := ⟨[], none⟩

def isActive (s : Suggestions) : Bool := !s.shown.isEmpty

/-- The names that complete `buffer`, or none once the command name is over or not begun. -/
def completions (buffer : String) (known : List String) : List String :=
  if buffer.isEmpty || Text.hasBlank buffer then []
  else known.filter (Text.startsWith · buffer)

/-- The list for a new text. The highlighted row stays only if the list stays the same. -/
def update (s : Suggestions) (buffer : String) (known : List String) : Suggestions :=
  let names := completions buffer known
  if names.isEmpty then hidden
  else if names = s.shown then
    { s with selected := s.selected.filter (· < s.shown.length) }
  else ⟨names, none⟩

/-- The next row, round both ends. From no row, forward leads to the first and backward to the
last. -/
def move (s : Suggestions) (m : Move) : Suggestions :=
  let n := s.shown.length
  if n = 0 then s
  else { s with
    selected := some <| match s.selected, m with
      | none, .forward => 0
      | none, .backward => n - 1
      | some i, .forward => (i + 1) % n
      | some i, .backward => (i + n - 1) % n }

def chosen? (s : Suggestions) : Option String := s.selected.bind (s.shown[·]?)

/-- The text that takes the place of the input when the highlighted name is accepted. -/
def confirmed? (s : Suggestions) : Option String := s.chosen?.map (· ++ " ")

/-- What can be done with the list. -/
inductive Action where
  /-- The input reads differently, and the known names may be others. -/
  | update (buffer : String) (known : List String)
  | move (m : Move)
  /-- Accept the highlighted row, if there is one. -/
  | confirm
  | hide

def act (s : Suggestions) : Action → Suggestions
  | .update buffer known => s.update buffer known
  | .move m => s.move m
  | .confirm => if s.confirmed?.isSome then hidden else s
  | .hide => hidden

def actAll (s : Suggestions) (actions : List Action) : Suggestions := actions.foldl act s

@[simp] theorem isActive_hidden : hidden.isActive = false := rfl

@[simp] theorem confirmed?_hidden : hidden.confirmed? = none := rfl

@[simp] theorem shown_move (s : Suggestions) (m : Move) : (s.move m).shown = s.shown := by
  unfold move
  dsimp only
  split <;> rfl

theorem shown_update (s : Suggestions) (buffer : String) (known : List String) :
    (s.update buffer known).shown = completions buffer known := by
  unfold update
  dsimp only
  split
  · rename_i h
    exact (List.isEmpty_iff.1 h).symm
  · split
    · rename_i h
      exact h.symm
    · rfl

end Suggestions

end GuidedShell
