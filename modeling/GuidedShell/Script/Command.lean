import GuidedShell.Script.Octets

/-! The commands of a script. -/
namespace GuidedShell.Script

/-- What is done with the value of a parameter. -/
inductive Treatment where
  | plain
  | length
  | useDefault
  | useOther
  | assignDefault
  | demand
  | dropFront (longest : Bool)
  | dropBack (longest : Bool)
  /-- What is written there has no meaning. -/
  | senseless
  deriving DecidableEq

/-- How a file is opened. -/
inductive Opening where
  | input
  | output
  /-- For output, even where existing files are to be kept. -/
  | replacement
  | append
  | both
  deriving DecidableEq

mutual

/-- A part of a word. -/
inductive Piece where
  | text (cs : Octets)
  /-- A character that a backslash or a pair of quotes keeps from having a meaning. -/
  | firm (c : Char)
  /-- A quote. What stands between two of them is not split. -/
  | quote
  /-- The value of a parameter. If it is `filled`, an empty value counts like none. -/
  | parameter (name : Octets) (treatment : Treatment) (filled : Bool) (word : List Piece)
  | arithmetic (expression : List Piece)
  | output (body : Option Command)

inductive Redirect where
  | file (descriptor : Nat) (how : Opening) (name : List Piece)
  /-- Use what another descriptor uses, or nothing. -/
  | copy (descriptor : Nat) (source : Option Nat)
  /-- Use what the descriptor uses that a word names. -/
  | copyNamed (descriptor : Nat) (word : List Piece)
  /-- Read a document that the script holds. -/
  | document (descriptor : Nat) (number : Nat)

/-- A command. Where it matters, it knows the line that it begins in. -/
inductive Command where
  | simple (line : Nat) (assignments : List (Octets × List Piece)) (words : List (List Piece))
      (redirects : List Redirect)
  | sequence (first second : Command)
  | both (first second : Command)
  | either (first second : Command)
  | negated (body : Command)
  | pipeline (apart : Bool) (elements : List Command)
  | branch (test yes : Command) (no : Option Command)
  /-- The body is repeated as long as the test succeeds, or fails if `inverted`. -/
  | loop (inverted : Bool) (test body : Command)
  | forEach (line : Nat) (name : Octets) (words : List (List Piece)) (body : Command)
  | choose (line : Nat) (subject : List Piece) (cases : List (List (List Piece) × Option Command))
  | group (line : Nat) (body : Command) (redirects : List Redirect)
  /-- The body is carried out by a process of its own. -/
  | subshell (line : Nat) (body : Command) (redirects : List Redirect)
  /-- The body is carried out by a process of its own, and nobody waits for it. -/
  | background (line? : Option Nat) (body : Command) (redirects : List Redirect)
  | define (name : Octets) (body : Command)

end

abbrev Word := List Piece

namespace Word

def characters : Word → Octets
  | [] => []
  | .text cs :: w => cs ++ characters w
  | .firm c :: w => c :: characters w
  | _ :: w => characters w

/-- The text of a word that is written without quotes and expansions. -/
def bare? : Word → Option Octets
  | [] => some []
  | [.text cs] => some cs
  | _ => none

/-- The name and the value of a word that assigns. -/
def assignment? (w : Word) : Option (Octets × Word) :=
  match w with
  | .text cs :: rest =>
    match Script.assignment? cs with
    | some (name, value) => some (name, if value.isEmpty then rest else .text value :: rest)
    | none => none
  | _ => none

end Word

/-- A document that a script holds. Unless it is `literal`, its text is expanded. -/
structure Document where
  literal : Bool
  text : Word

/-- A redirection of which the words are known. -/
inductive Route where
  | file (descriptor : Nat) (how : Opening) (name : Octets)
  | copy (descriptor : Nat) (source : Option Nat)
  | document (descriptor : Nat) (document : Document)

def Route.descriptor : Route → Nat
  | file d .. | copy d .. | document d .. => d

end GuidedShell.Script
