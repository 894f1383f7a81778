import GuidedShell.Script.Octets

/-! Integers as they are written, and the integers of 64 bits. -/
namespace GuidedShell.Script.Numeral

/-- White space, as it may stand in front of a number. -/
def isSpace (c : Char) : Bool := c == ' ' || ('\t' ≤ c && c ≤ '\r')

/-- What a character counts as a digit, whatever the radix. -/
def digit (c : Char) : Nat :=
  if c.isDigit then c.toNat - '0'.toNat
  else if c.isLower then c.toNat - 'a'.toNat + 10
  else if c.isUpper then c.toNat - 'A'.toNat + 10
  else 36

def isDigit (radix : Nat) (c : Char) : Bool := digit c < radix

def ofDigits (radix : Nat) (ds : Octets) : Nat := ds.foldl (fun n c => n * radix + digit c) 0

/-- The radix that the front of a numeral shows, and its digits: octal after a zero, hexadecimal
after `0x`. -/
def radixOf (cs : Octets) : Nat × Octets :=
  match cs with
  | '0' :: x :: d :: _ =>
    if (x == 'x' || x == 'X') && isDigit 16 d then (16, cs.drop 2) else (8, cs)
  | '0' :: _ => (8, cs)
  | _ => (10, cs)

/-- An integer at the front of a text, after white space and a sign, and what follows it. Without a
radix the numeral itself shows it. -/
def scan? (radix : Option Nat) (cs : Octets) : Option (Int × Octets) :=
  let cs := cs.dropWhile isSpace
  let (negative, cs) := match cs with
    | '-' :: cs => (true, cs)
    | '+' :: cs => (false, cs)
    | cs => (false, cs)
  let (radix, cs) := match radix with
    | some r => (r, cs)
    | none => radixOf cs
  let (ds, rest) := cs.span (isDigit radix)
  if ds.isEmpty then none
  else
    let n : Int := ofDigits radix ds
    some (if negative then -n else n, rest)

def least : Int := -0x8000000000000000

def greatest : Int := 0x7FFFFFFFFFFFFFFF

def fits (n : Int) : Bool := least ≤ n && n ≤ greatest

def clamp (n : Int) : Int := max least (min greatest n)

/-- The integer that is left of another when it is cut down to 64 bits. -/
def wrap (n : Int) : Int := n.bmod 0x10000000000000000

/-- The integer that a whole text is, with white space around it. Where the numeral shows its
radix, a blank text is zero. -/
def whole? (radix : Option Nat) (cs : Octets) : Option Int :=
  match scan? radix cs with
  | some (n, rest) => if fits n && rest.all isSpace then some n else none
  | none => if radix.isNone && cs.all isSpace then some 0 else none

/-- A count, as commands take it. -/
def count? (cs : Octets) : Option Int :=
  match whole? (some 10) cs with
  | some n => if 0 ≤ n && n < 0x80000000 then some n else none
  | none => none

/-- The number that digits alone mean. -/
def ofDigits? (cs : Octets) : Option Nat :=
  if !cs.isEmpty && cs.all Char.isDigit then some (ofDigits 10 cs) else none

end GuidedShell.Script.Numeral
