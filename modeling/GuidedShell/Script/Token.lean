import GuidedShell.Script.Command

/-! The units that commands are put together from, and what can be wrong with them. -/
namespace GuidedShell.Script

inductive Token where
  | endOfFile
  | newline
  | word
  | redirection
  | sign (s : String)
  | reserved (s : String)
  deriving DecidableEq

namespace Token

/-- How a token is called in messages. -/
def describe : Token → String
  | endOfFile => "end of file"
  | newline => "newline"
  | word => "word"
  | redirection => "redirection"
  | sign s | reserved s => "\x22" ++ s ++ "\x22"

/-- The words that have a meaning of their own where a command begins. -/
def reservedWords : List String :=
  ["!", "case", "do", "done", "elif", "else", "esac", "fi", "for", "if", "in", "then", "until",
    "while", "\x7b", "\x7d"]

def reserved? (cs : Octets) : Option Token :=
  (reservedWords.find? (·.toList == cs)).map .reserved

/-- A list of commands ends before the token. -/
def endsList : Token → Bool
  | endOfFile => true
  | sign s => s == ")" || s == ";;"
  | reserved s => ["do", "done", "elif", "else", "esac", "fi", "then", "\x7d"].contains s
  | _ => false

end Token

/-- The commands that no function may replace, for they are part of the language itself. -/
def specialCommands : List String :=
  [".", ":", "break", "continue", "eval", "exec", "exit", "export", "readonly", "return", "set",
    "shift", "times", "trap", "unset"]

/-- Why a text is no command. -/
inductive Flaw where
  | unexpected (found : Token) (wanted : Option Token)
  | unterminatedQuote
  | missingBrace
  | missingParentheses
  | unterminatedBackQuote
  | loopVariable
  | functionName
  | descriptor
  /-- The text never ends. -/
  | endless

def Flaw.describe : Flaw → String
  | unexpected found none => found.describe ++ " unexpected"
  | unexpected found (some wanted) =>
    found.describe ++ " unexpected (expecting " ++ wanted.describe ++ ")"
  | unterminatedQuote => "Unterminated quoted string"
  | missingBrace => "Missing '\x7d'"
  | missingParentheses => "Missing '))'"
  | unterminatedBackQuote => "EOF in backquote substitution"
  | loopVariable => "Bad for loop variable"
  | functionName => "Bad function name"
  | descriptor => "Bad fd number"
  | endless => "Endless text"

end GuidedShell.Script
