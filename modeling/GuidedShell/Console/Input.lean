import GuidedShell.Text

/-! The lines of a standard input that is no terminal. -/
namespace GuidedShell.Console

/-- The input cut after every line feed. -/
def rawLines (input : Bytes) : List Bytes :=
  let ps := pieces (· == 0x0A) input
  ps.dropLast.map (· ++ [0x0A]) ++ ps.getLast?.toList.filter (!·.isEmpty)

/-- A line without its line feed and one carriage return before that. -/
def dropEnding (line : List Char) : List Char :=
  if line.getLast? = some '\n' then Chars.dropReturn line.dropLast else line

/-- The text of a line, or nothing where it is not text, or a backspace would cut a character in
two. -/
def lineText? (raw : Bytes) : Option String := do
  let cs ← Utf8.decode? raw
  return .ofList (← Chars.eraseBackspaces? (dropEnding cs))

/-- The terminals that cannot edit a line. -/
def plainTerminals : List String := ["dumb", "cons25", "emacs"]

def isPlain (terminal : String) : Bool :=
  plainTerminals.contains (.ofList (terminal.toList.map Char.toLower))

end GuidedShell.Console
