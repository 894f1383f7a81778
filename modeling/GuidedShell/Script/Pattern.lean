import GuidedShell.Script.Numeral

/-! Patterns. A backslash makes the character after it stand for itself. -/
namespace GuidedShell.Script.Pattern

/-- The value of an octet where octets have a sign. -/
def signed (c : Char) : Int := (c.toNat : Int).bmod 256

def classOf (name : String) (c : Char) : Bool :=
  match name with
  | "alnum" => c.isAlphanum
  | "alpha" => c.isAlpha
  | "blank" => c == ' ' || c == '\t'
  | "cntrl" => c.toNat < 32 || c.toNat == 127
  | "digit" => c.isDigit
  | "graph" => 32 < c.toNat && c.toNat < 127
  | "lower" => c.isLower
  | "print" => 32 ≤ c.toNat && c.toNat < 127
  | "punct" => 32 < c.toNat && c.toNat < 127 && !c.isAlphanum
  | "space" => Numeral.isSpace c
  | "upper" => c.isUpper
  | "xdigit" => Numeral.isDigit 16 c
  | _ => false

def classes : List String :=
  ["alnum", "alpha", "blank", "cntrl", "digit", "graph", "lower", "print", "punct", "space",
    "upper", "xdigit"]

/-- The class that is named after an opening bracket, and what follows it. -/
def class? (p : Octets) : Option (String × Octets) :=
  classes.findSome? fun name =>
    let mark := ":".toList ++ name.toList ++ ":]".toList
    if mark.isPrefixOf p then some (name, p.drop mark.length) else none

/-- Whether a character is among those of a bracket, and what follows the bracket, if it has an
end. The first character in it never ends it. -/
def among (x : Char) : (fuel : Nat) → (found first : Bool) → Octets → Option (Bool × Octets)
  | 0, _, _, _ | _ + 1, _, _, [] => none
  | n + 1, found, first, c :: p =>
    if c == ']' && !first then some (found, p)
    else match if c == '[' then class? p else none with
      | some (name, p) => among x n (found || classOf name x) false p
      | none =>
        let (c, p) := if c == '\\' then (p.headD zero, p.drop 1) else (c, p)
        match p with
        | '-' :: d :: rest =>
          if d == ']' then among x n (found || x == c) false p
          else
            let (d, rest) := if d == '\\' then (rest.headD zero, rest.drop 1) else (d, rest)
            among x n (found || (signed c ≤ signed x && signed x ≤ signed d)) false rest
        | p => among x n (found || x == c) false p

/-- The first `size` characters of a text fit a pattern. The fuel is more than the length of the
pattern and that size together. -/
def fitsFirst : (fuel : Nat) → Octets → (size : Nat) → Octets → Bool
  | 0, _, _, _ => false
  | _ + 1, [], size, _ => size == 0
  | n + 1, c :: p, size, s =>
    if c == '*' then
      fitsFirst n p size s || (size != 0 && fitsFirst n (c :: p) (size - 1) (s.drop 1))
    else match size, s with
      | size + 1, x :: s =>
        if c == '?' then fitsFirst n p size s
        else if c == '[' then
          let inverted := p.head? == some '!'
          match among x (p.length + 1) false true (if inverted then p.drop 1 else p) with
          | some (found, after) => found != inverted && fitsFirst n after size s
          | none => x == c && fitsFirst n p size s
        else if c == '\\' then
          match p with
          | d :: p => x == d && fitsFirst n p size s
          | [] => x == c && fitsFirst n [] size s
        else x == c && fitsFirst n p size s
      | _, _ => false

def fits (p s : Octets) : Bool := fitsFirst (p.length + s.length + 1) p s.length s

/-- The length of a front that fits, the shortest or the longest. -/
def front? (longest : Bool) (p s : Octets) : Option Nat :=
  let fuel := p.length + s.length + 1
  let sizes := List.range (s.length + 1)
  (if longest then sizes.reverse else sizes).find? fun n => fitsFirst fuel p n s

/-- Where a back begins that fits, the shortest or the longest. -/
def back? (longest : Bool) (p s : Octets) : Option Nat :=
  if longest then go 0 s.length s
  else (List.range (s.length + 1)).reverse.find? fun n => fits p (s.drop n)
where
  go (start : Nat) : (size : Nat) → Octets → Option Nat
    | 0, s => if fitsFirst (p.length + 1) p 0 s then some start else none
    | size + 1, s =>
      if fitsFirst (p.length + size + 2) p (size + 1) s then some start
      else go (start + 1) size (s.drop 1)

end GuidedShell.Script.Pattern
