import GuidedShell.Console.Input
import GuidedShell.Options

/-! What the shell leaves to libraries. -/
namespace GuidedShell.Console

/-- The parser of the command line, and the reader of an input that is no terminal. -/
structure Libraries where
  /-- The options, or what the process writes and returns at once. -/
  parse : (words : List String) → Except Options.Report Options
  /-- The prompt is written before a line is read, because the terminal cannot edit one. -/
  isPlain : (terminal : String) → Bool
  /-- The text of a line, or nothing where the reader fails. -/
  text? : (raw : Bytes) → Option String

namespace Libraries

def standard : Libraries where
  parse words := (Options.parse words).mapError Options.Stop.report
  isPlain := Console.isPlain
  text? := lineText?

/-- A line is read without the line feed that ends it. -/
def DropsLineFeed (libs : Libraries) : Prop :=
  ∀ raw line, 0x0A ∉ raw.dropLast → libs.text? raw = some line → '\n' ∉ line.toList

end Libraries

end GuidedShell.Console
