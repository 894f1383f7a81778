import GuidedShell.Text

/-! The suggestion list as one line of a terminal. -/
namespace GuidedShell.Terminal

def visibleNames : Nat := 10

/-- The first name that is shown: the window moves once the selection would leave it. -/
def windowStart (selected : Option Nat) : Nat :=
  match selected with
  | some i => i - (visibleNames - 1)
  | none => 0

/-- The names from position `position` on as they are shown, the selected one in brackets. -/
def mark (selected : Option Nat) (position : Nat) : List String → List String
  | [] => []
  | n :: ns =>
    (if selected = some position then "[" ++ n ++ "]" else n) ::
      mark selected (position + 1) ns

def window (names : List String) (selected : Option Nat) : List String :=
  let start := windowStart selected
  mark selected start ((names.drop start).take visibleNames)

/-- The line: the names in the window, and how many others there are. -/
def hint (names : List String) (selected : Option Nat) : String :=
  let shown := window names selected
  let hidden := names.length - shown.length
  let rest := if 0 < hidden then ["(+" ++ Text.decimal hidden ++ ")"] else []
  "   " ++ Text.join "  " (shown ++ rest)

def faint (line : String) : String := "\x1b[2m" ++ line ++ "\x1b[0m"

end GuidedShell.Terminal
