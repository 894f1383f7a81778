import GuidedShell.Pieces
import GuidedShell.Utf8

/-! Texts of scripts. Scripts deal in bytes, written here as the characters of the same numbers. -/
namespace GuidedShell.Script

abbrev Octets := List Char

def Octets.ofBytes (bs : Bytes) : Octets := bs.map fun b => Char.ofNat b.toNat

def Octets.toBytes (cs : Octets) : Bytes := cs.map fun c => UInt8.ofNat c.toNat

def Octets.ofString (s : String) : Octets := .ofBytes (Utf8.encode s.toList)

/-- The octet zero, which ends a text wherever the system takes one. -/
def zero : Char := '\x00'

/-- What stands before the first zero. -/
def Octets.beforeZero (cs : Octets) : Octets := cs.takeWhile (· != zero)

/-- The texts with something between every two of them. -/
def Octets.joined (sep : Octets) (texts : List Octets) : Octets := joinPieces sep texts

/-- One text comes before another, octet by octet. -/
def Octets.isBelow (a b : Octets) : Bool := decide (a < b)

def Octets.sort (texts : List Octets) : List Octets := texts.mergeSort fun a b => !b.isBelow a

def isNameStart (c : Char) : Bool := c.isAlpha || c == '_'

def isNameChar (c : Char) : Bool := c.isAlphanum || c == '_'

def isName (cs : Octets) : Bool :=
  match cs with
  | [] => false
  | c :: cs => isNameStart c && cs.all isNameChar

/-- The name at the front of a text and what follows it. There may be none. -/
def splitName (cs : Octets) : Octets × Octets :=
  if cs.head?.any isNameStart then cs.span isNameChar else ([], cs)

/-- The name and the value of a text that assigns. -/
def assignment? (cs : Octets) : Option (Octets × Octets) :=
  match splitName cs with
  | (c :: name, '=' :: value) => some (c :: name, value)
  | _ => none

def decimal (n : Int) : Octets :=
  if n < 0 then '-' :: Nat.toDigits 10 n.natAbs else Nat.toDigits 10 n.natAbs

/-- The digits of a number, filled up with zeros to a width. -/
def padded (width radix n : Nat) : Octets :=
  let ds := Nat.toDigits radix n
  List.replicate (width - ds.length) '0' ++ ds

/-- A text between single quotes, as a script can read it back. Every stretch of single quotes
stands between double quotes. -/
def enclosed (cs : Octets) : Octets :=
  go cs.length cs
where
  go : (fuel : Nat) → Octets → Octets
    | 0, cs => '\x27' :: cs ++ ['\x27']
    | n + 1, cs =>
      let (plain, rest) := cs.span (· != '\x27')
      let (ticks, rest) := rest.span (· == '\x27')
      '\x27' :: plain ++ '\x27' ::
        (if ticks.isEmpty then [] else '\x22' :: ticks ++ ['\x22']) ++
        (if rest.isEmpty then [] else go n rest)

end GuidedShell.Script
