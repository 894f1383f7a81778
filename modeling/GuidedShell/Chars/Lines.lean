import GuidedShell.Pieces

/-! Lines of a text. -/
namespace GuidedShell.Chars

/-- A line without the carriage return that stood before its line feed. -/
def dropReturn (line : List Char) : List Char :=
  if line.getLast? = some '\r' then line.dropLast else line

/-- Every line feed ends a line. What follows the last one is a line if it is not empty, and keeps
its carriage return. -/
def lines (cs : List Char) : List (List Char) :=
  let ps := pieces (· == '\n') cs
  ps.dropLast.map dropReturn ++ ps.getLast?.toList.filter (!·.isEmpty)

end GuidedShell.Chars
