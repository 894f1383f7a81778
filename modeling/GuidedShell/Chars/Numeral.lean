/-! Decimal numerals: writing natural numbers, and reading integers of a bounded range. -/
namespace GuidedShell.Chars

/-- The decimal digits of a number, without leading zeros. -/
def decimal (n : Nat) : List Char := Nat.toDigits 10 n

def digit? (c : Char) : Option Nat :=
  if '0' ≤ c ∧ c ≤ '9' then some (c.toNat - '0'.toNat) else none

/-- What a text is when it is read as an integer of a range. -/
inductive Numeral where
  | value (n : Int)
  /-- The digits read so far already leave the range. What follows them was not looked at. -/
  | beyond
  | malformed
  deriving DecidableEq

/-- The ends of a range of integers. -/
structure Bounds where
  low : Int
  high : Int

/-- The integers that fit in 64 bits, one of them for the sign. -/
def Bounds.word : Bounds := ⟨-0x8000000000000000, 0x7FFFFFFFFFFFFFFF⟩

/-- Read the digits that follow `soFar`, whose sign is `sign`, from left to right. -/
def Numeral.readDigits (range : Bounds) (sign : Int) (soFar : Int) : List Char → Numeral
  | [] => .value soFar
  | c :: cs =>
    match digit? c with
    | none => .malformed
    | some d =>
      let next := soFar * 10 + sign * d
      if range.low ≤ next ∧ next ≤ range.high then readDigits range sign next cs else .beyond

/-- A numeral is one optional sign and at least one digit. -/
def Numeral.read (range : Bounds) (cs : List Char) : Numeral :=
  match cs with
  | [] => .malformed
  | '+' :: [] | '-' :: [] => .malformed
  | '+' :: ds => readDigits range 1 0 ds
  | '-' :: ds => readDigits range (-1) 0 ds
  | ds => readDigits range 1 0 ds

end GuidedShell.Chars
