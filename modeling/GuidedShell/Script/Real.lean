import GuidedShell.Script.Numeral

/-! Numbers with a fraction: those of 53 binary digits, how they are read, and how they are
written. -/
namespace GuidedShell.Script

/-- A number of 53 binary digits, `mantissa` times a power of two. -/
inductive Real where
  | finite (negative : Bool) (mantissa : Nat) (exponent : Int)
  | infinite (negative : Bool)
  | undefined (negative : Bool)
  deriving DecidableEq

namespace Real

/-- The least mantissa that has all 53 digits. -/
def leastWhole : Nat := 0x10000000000000

/-- The nearest integer to a fraction. From the middle it is the even one. -/
def roundDiv (num den : Nat) : Nat :=
  let q := num / den
  let twice := 2 * (num % den)
  if twice < den then q else if den < twice then q + 1 else q + q % 2

/-- A power of a base, as what to multiply and to divide by. -/
def scale (base : Nat) (e : Int) : Nat × Nat :=
  if 0 ≤ e then (base.pow e.toNat, 1) else (1, base.pow (-e).toNat)

/-- The nearest number to a fraction, and whether it is out of range. -/
def ofFraction (negative : Bool) (num den : Nat) : Real × Bool :=
  if num = 0 then (finite negative 0 0, false)
  else
    let e : Int := (Nat.log2 num : Int) - Nat.log2 den - 52
    let fit (e : Int) : Nat :=
      let (a, b) := scale 2 (-e)
      roundDiv (num * a) (den * b)
    -- The estimate is one too large if the mantissa comes out too small.
    let (a, b) := scale 2 (-e)
    let e := if num * a < leastWhole * (den * b) then e - 1 else e
    let e := max e (-1074)
    let m := fit e
    let (m, e) := if m = 2 * leastWhole then (leastWhole, e + 1) else (m, e)
    if 971 < e then (infinite negative, true)
    else
      let (a, b) := scale 2 (-e)
      (finite negative m e, m < leastWhole && num * a != m * (den * b))

/-- A fraction is written with digits of some radix, each place after the point counting `unit` to
the exponent. -/
def ofDigits (negative : Bool) (radix base : Nat) (unit : Int) (whole part : Octets)
    (exponent : Int) : Real × Bool :=
  let n := Numeral.ofDigits radix (whole ++ part)
  let e := exponent - unit * part.length
  let size : Int := unit * (whole ++ part).length + e
  if n = 0 then (finite negative 0 0, false)
  else if 2000 < size then (infinite negative, true)
  else if size < -2000 then (finite negative 0 0, true)
  else
    let (a, b) := scale base e
    ofFraction negative (n * a) b

/-- An exponent after one of two letters, and what follows it. -/
def exponentAfter (letter : Char) (cs : Octets) : Int × Octets :=
  match cs with
  | c :: rest =>
    if c.toLower != letter then (0, cs)
    else
      let (negative, digits) := match rest with
        | '-' :: ds => (true, ds)
        | '+' :: ds => (false, ds)
        | ds => (false, ds)
      let (ds, after) := digits.span Char.isDigit
      if ds.isEmpty then (0, cs)
      else
        let n : Int := min (Numeral.ofDigits 10 (ds.take 12)) 1000000
        (if negative then -n else n, after)
  | [] => (0, [])

/-- The digits of a number and, after a point, of its fraction. -/
def split (radix : Nat) (cs : Octets) : Octets × Octets × Octets :=
  let (whole, rest) := cs.span (Numeral.isDigit radix)
  match rest with
  | '.' :: after =>
    let (part, after) := after.span (Numeral.isDigit radix)
    if whole.isEmpty && part.isEmpty then ([], [], cs) else (whole, part, after)
  | rest => (whole, [], rest)

/-- The number at the front of a text, whether it is out of range, and what follows it. -/
def scan? (cs : Octets) : Option (Real × Bool × Octets) :=
  let cs := cs.dropWhile Numeral.isSpace
  let (negative, cs) := match cs with
    | '-' :: cs => (true, cs)
    | '+' :: cs => (false, cs)
    | cs => (false, cs)
  let starts (w : String) : Bool := w.toList.isPrefixOf (cs.map Char.toLower)
  if starts "infinity" then some (infinite negative, false, cs.drop 8)
  else if starts "inf" then some (infinite negative, false, cs.drop 3)
  else if starts "nan" then
    let rest := cs.drop 3
    let inner := (rest.drop 1).dropWhile isNameChar
    let rest := if rest.head? == some '(' && inner.head? == some ')' then inner.drop 1 else rest
    some (undefined negative, false, rest)
  else
    let (whole, part, rest) := split 16 (cs.drop 2)
    if starts "0x" && !(whole.isEmpty && part.isEmpty) then
      let (e, rest) := exponentAfter 'p' rest
      let (x, far) := ofDigits negative 16 2 4 whole part e
      some (x, far, rest)
    else
      let (whole, part, rest) := split 10 cs
      if whole.isEmpty && part.isEmpty then none
      else
        let (e, rest) := exponentAfter 'e' rest
        let (x, far) := ofDigits negative 10 10 1 whole part e
        some (x, far, rest)

/-- A number written with some digits after the point. -/
def pointed (places n : Nat) (keepPoint : Bool) : Octets :=
  let ds := padded (places + 1) 10 n
  let whole := ds.take (ds.length - places)
  whole ++ if places = 0 then (if keepPoint then ['.'] else []) else '.' :: ds.drop whole.length

/-- A positive number times a power of ten, rounded. -/
def scaled (m : Nat) (e : Int) (places : Int) : Nat :=
  let (a, b) := scale 2 e
  let (c, d) := scale 10 places
  roundDiv (m * a * c) (b * d)

def fixed (m : Nat) (e : Int) (places : Nat) (keepPoint : Bool) : Octets :=
  pointed places (scaled m e places) keepPoint

/-- The first digits of a number, one and `places` more, and the power of ten of the first. -/
def leading (m : Nat) (e : Int) (places : Nat) : Nat × Int :=
  if m = 0 then (0, 0)
  else
    let (a, b) := scale 2 e
    let size (n : Nat) : Int := (Nat.toDigits 10 n).length
    let k := size (m * a) - size b
    let atLeast (k : Int) : Bool :=
      let (c, d) := scale 10 k
      b * c ≤ m * a * d
    let k := if atLeast k then k else k - 1
    let n := scaled m e (places - k)
    if n = Nat.pow 10 (places + 1) then (Nat.pow 10 places, k + 1) else (n, k)

def exponentText (e : Int) : Octets := (if e < 0 then '-' else '+') :: padded 2 10 e.natAbs

def scientific (m : Nat) (e : Int) (places : Nat) (keepPoint : Bool) : Octets :=
  let (n, k) := leading m e places
  pointed places n keepPoint ++ 'e' :: exponentText k

def dropZeros (cs : Octets) : Octets :=
  let kept := (cs.reverse.dropWhile (· == '0')).reverse
  if kept.getLast? == some '.' then kept.dropLast else kept

/-- The shorter of the two ways to write a number, without zeros at the end of its fraction. -/
def general (m : Nat) (e : Int) (digits : Nat) (keep : Bool) : Octets :=
  let digits := max 1 digits
  let (n, k) := leading m e (digits - 1)
  if -4 ≤ k && k < digits then
    let text := fixed m e (digits - 1 - k).toNat keep
    if keep || !text.contains '.' then text else dropZeros text
  else
    let text := pointed (digits - 1) n keep
    (if keep || !text.contains '.' then text else dropZeros text) ++ 'e' :: exponentText k

/-- A number with hexadecimal digits, and as many of its fraction as asked for, or as needed. -/
def hexadecimal (m : Nat) (e : Int) (places : Option Nat) (keepPoint : Bool) : Octets :=
  let (m, e) :=
    if m = 0 then (0, (0 : Int))
    else if m < leastWhole then (m, (-1022 : Int))
    else (m, e + 52)
  let ds : Octets := match places with
    | some p =>
      let n := if p < 13 then roundDiv m ((Nat.pow 16 (13 - p))) else m * Nat.pow 16 (p - 13)
      padded (p + 1) 16 n
    | none =>
      let ds := padded 14 16 m
      ds.take 1 ++ ((ds.drop 1).reverse.dropWhile (· == '0')).reverse
  let part := ds.drop 1
  "0x".toList ++ ds.take 1 ++ (if part.isEmpty && !keepPoint then [] else '.' :: part) ++ 'p' ::
    (if e < 0 then '-' else '+') :: Nat.toDigits 10 e.natAbs

end Real

end GuidedShell.Script
