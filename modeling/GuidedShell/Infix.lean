/-! Finding a stretch inside a list. -/
namespace GuidedShell

variable {α : Type} [DecidableEq α]

/-- `part` stands somewhere in the list, without gaps. -/
def hasInfix (part : List α) : List α → Bool
  | [] => part.isEmpty
  | x :: xs => part.isPrefixOf (x :: xs) || hasInfix part xs

theorem hasInfix_iff {part xs : List α} : hasInfix part xs ↔ part <:+: xs := by
  induction xs with
  | nil => simp [hasInfix]
  | cons x xs ih => simp [hasInfix, ih, List.infix_cons_iff]

end GuidedShell
