import GuidedShell.Script.Command

/-! Words while they are read. Quotes, braces and parentheses in them are levels, each of which says
how the characters in it are taken. -/
namespace GuidedShell.Script

/-- How the characters of a word are taken. -/
inductive Mode where
  | bare
  | double
  | single
  | arithmetic
  deriving DecidableEq

/-- One level of quoting. -/
structure Frame where
  mode : Mode
  /-- The characters stand for themselves. -/
  firm : Bool
  /-- Inside braces, between double quotes of their own. -/
  inner : Bool
  /-- The level ends with the braces that opened it. -/
  ofBraces : Bool
  /-- The open braces. -/
  braces : Nat
  /-- Those of them between double quotes. -/
  firmBraces : Nat
  parentheses : Nat

def Frame.plain (mode : Mode) (firm : Bool) : Frame := ⟨mode, firm, false, false, 0, 0, 0⟩

/-- A part of a word that is not complete. -/
inductive Enclosure where
  | parameter (name : Octets) (treatment : Treatment) (filled : Bool)
  | arithmetic

def Enclosure.piece (e : Enclosure) (w : Word) : Piece :=
  match e with
  | .parameter name treatment filled => .parameter name treatment filled w
  | .arithmetic => .arithmetic w

/-- A word as far as it has been read. -/
structure Spelling where
  frame : Frame
  outer : List Frame
  /-- The incomplete parts, each with the pieces before it, last piece first. -/
  opened : List (Enclosure × List Piece)
  /-- The pieces of the innermost part, last one first. -/
  pieces : List Piece
  /-- The characters after them, last one first. -/
  text : Octets
  quoted : Bool

namespace Spelling

def start (frame : Frame) : Spelling := ⟨frame, [], [], [], [], false⟩

def allPieces (w : Spelling) : List Piece :=
  if w.text.isEmpty then w.pieces else .text w.text.reverse :: w.pieces

def word (w : Spelling) : Word := w.allPieces.reverse

def add (w : Spelling) (c : Char) : Spelling := { w with text := c :: w.text }

def addPiece (w : Spelling) (p : Piece) : Spelling :=
  { w with pieces := p :: w.allPieces, text := [] }

def addFirm (w : Spelling) (c : Char) : Spelling := w.addPiece (.firm c)

def enter (w : Spelling) (e : Enclosure) : Spelling :=
  { w with opened := (e, w.allPieces) :: w.opened, pieces := [], text := [] }

def leave (w : Spelling) : Spelling :=
  match w.opened with
  | [] => w
  | (e, before) :: rest =>
    { w with opened := rest, pieces := e.piece w.word :: before, text := [] }

def push (w : Spelling) (f : Frame) : Spelling := { w with frame := f, outer := w.frame :: w.outer }

def pop (w : Spelling) : Spelling :=
  match w.outer with
  | f :: fs => { w with frame := f, outer := fs }
  | [] => w

/-- A quote, which leaves no trace in a document. -/
def addQuote (w : Spelling) (inDocument : Bool) : Spelling :=
  if inDocument then w else w.addPiece .quote

/-- A double quote turns from one side of quoting to the other inside braces. -/
def toggle (w : Spelling) : Spelling :=
  if w.frame.braces = 0 then w
  else { w with frame := { w.frame with inner := !w.frame.inner } }

def closeQuote (w : Spelling) (c : Char) (inDocument : Bool) : Spelling :=
  if inDocument && w.frame.braces = 0 then w.add c
  else
    let w := if w.frame.firmBraces = 0 then
        { w with frame := { w.frame with mode := .bare, firm := false } }
      else w
    let w := { w with quoted := true }
    (if c == '\x22' then w.toggle else w).addQuote inDocument

def closeBrace (w : Spelling) : Spelling :=
  if w.frame.inner || w.frame.braces = 0 then w.add '\x7d'
  else
    let f := { w.frame with braces := w.frame.braces - 1 }
    let w := { w with frame := f }.leave
    if f.braces = 0 && f.ofBraces then w.pop
    else { w with frame := { f with firmBraces := f.firmBraces - 1 } }

/-- An opening brace with a parameter, in the way of `mode`. -/
def openBrace (w : Spelling) (e : Enclosure) (mode : Mode) : Spelling :=
  let w := w.enter e
  let w :=
    if mode != w.frame.mode || w.frame.inner then
      w.push { Frame.plain mode (mode != .bare) with ofBraces := true }
    else w
  let f := { w.frame with braces := w.frame.braces + 1 }
  { w with frame := if f.firm then { f with firmBraces := f.firmBraces + 1 } else f }

end Spelling

end GuidedShell.Script
