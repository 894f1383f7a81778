/-! Sets of code points given as lists of closed ranges. -/
namespace GuidedShell.Chars

/-- Both ends of a range belong to it. -/
def inRanges (ranges : List (Nat × Nat)) (code : Nat) : Bool :=
  ranges.any fun r => r.1 ≤ code && code ≤ r.2

end GuidedShell.Chars
