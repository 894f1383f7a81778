import GuidedShell.Script.Token

/-! The text that commands are read from, one character after another. -/
namespace GuidedShell.Script

/-- The text of an alias that is being read in place of its name. -/
structure Layer where
  name : Octets
  rest : Octets
  /-- The word after it may be an alias, too. -/
  chained : Bool
  /-- The aliases whose text had come to its end right before. -/
  held : List Octets

/-- What the next token may be taken for. -/
structure Outlook where
  /-- Ends of lines are passed over. -/
  lines : Bool
  /-- A word may be reserved. -/
  reserved : Bool
  /-- A word may be an alias. -/
  aliased : Bool
  /-- A word is the end of a document, in which nothing is expanded. -/
  mark : Bool

namespace Outlook

def none : Outlook := ⟨false, false, false, false⟩

/-- A command may begin here. -/
def command : Outlook := ⟨false, true, true, false⟩

/-- A command may begin here or in a later line. -/
def commandBelow : Outlook := ⟨true, true, true, false⟩

end Outlook

/-- A redirection of which the word that follows is not yet known. -/
structure Arrow where
  descriptor : Nat
  kind : String
  /-- Tabulators at the start of the lines of a document do not count. -/
  indented : Bool

/-- A document that is to be read with the next line. -/
structure Promise where
  number : Nat
  ending : Octets
  literal : Bool
  indented : Bool

structure Source where
  rest : Octets
  /-- The line that is being read. -/
  line : Nat
  layers : List Layer
  /-- The aliases whose text has just come to its end. -/
  retired : List Octets
  aliases : List (Octets × Octets)
  outlook : Outlook
  /-- The last token counts again. -/
  pushed : Bool
  token : Token
  /-- The last word. -/
  word : Word
  /-- Something in it is quoted. -/
  quoted : Bool
  arrow : Arrow
  promises : List Promise
  documents : List (Nat × Document)
  /-- How many documents have been promised so far. -/
  issued : Nat

/-- Reading takes something from the front of a source, or finds a flaw. -/
abbrev Reader := ExceptT Flaw (StateM Source)

namespace Source

def ofText (aliases : List (Octets × Octets)) (issued line : Nat) (text : Octets) : Source where
  rest := text
  line := line
  layers := []
  retired := []
  aliases := aliases
  outlook := .none
  pushed := false
  token := .endOfFile
  word := []
  quoted := false
  arrow := ⟨0, "<", false⟩
  promises := []
  documents := []
  issued := issued

/-- Leave the layers that have come to their end. -/
def settle (s : Source) : Source :=
  go s.layers s
where
  go : List Layer → Source → Source
    | [], s => { s with layers := [] }
    | l :: ls, s =>
      if l.rest.isEmpty then
        go ls { s with
          retired := l.name :: l.held ++ s.retired
          outlook := { s.outlook with aliased := s.outlook.aliased || l.chained } }
      else { s with layers := l :: ls }

def next (s : Source) : Option Char × Source :=
  let s := { s with retired := [] }.settle
  match s.layers with
  | l :: ls =>
    match l.rest with
    | c :: cs => (some c, { s with layers := { l with rest := cs } :: ls })
    | [] => (none, s)
  | [] =>
    match s.rest with
    | c :: cs => (some c, { s with rest := cs })
    | [] => (none, s)

/-- Put the last character back. -/
def back (s : Source) (c : Char) : Source :=
  match s.layers with
  | l :: ls => { s with layers := { l with rest := c :: l.rest } :: ls }
  | [] => { s with rest := c :: s.rest }

def ahead (s : Source) : Octets := s.layers.flatMap (·.rest) ++ s.rest

/-- The text of an alias, unless it is being read already. -/
def alias? (s : Source) (name : Octets) : Option Octets :=
  let isBusy (l : Layer) : Bool := l.name == name || l.held.contains name
  if s.retired.contains name || s.layers.any isBusy then none
  else s.aliases.lookup name

/-- Read the text of an alias next. -/
def enter (s : Source) (name text : Octets) : Source :=
  let blank := text.getLast?.any fun c => c == ' ' || c == '\t'
  { s with layers := ⟨name, text, blank, s.retired⟩ :: s.layers, retired := [] }

end Source

namespace Reader

def next : Reader (Option Char) := modifyGet Source.next

def back (c : Option Char) : Reader Unit :=
  match c with
  | some c => modify (·.back c)
  | none => pure ()

def countLine : Reader Unit := modify fun s => { s with line := s.line + 1 }

/-- Take the next character that belongs to no joint of two lines. -/
def nextJoined : (fuel : Nat) → Reader (Option Char)
  | 0 => throw .endless
  | n + 1 => do
    match ← next with
    | some '\\' =>
      match ← next with
      | some '\n' =>
        countLine
        nextJoined n
      | c =>
        back c
        return some '\\'
    | c => return c

def skip : (count : Nat) → Reader Unit
  | 0 => pure ()
  | n + 1 => do
    let _ ← next
    skip n

end Reader

end GuidedShell.Script
