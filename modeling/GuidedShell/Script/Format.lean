import GuidedShell.Script.Real

/-! What `echo` and `printf` write. -/
namespace GuidedShell.Script.Format

def isOctal (c : Char) : Bool := Numeral.isDigit 8 c

/-- The octet that an escape means, and what follows it. A backslash before any other character
stands for itself. -/
def escape (cs : Octets) : Char × Octets :=
  match cs with
  | '\\' :: cs => ('\\', cs)
  | 'a' :: cs => ('\x07', cs)
  | 'b' :: cs => ('\x08', cs)
  | 'e' :: cs => ('\x1b', cs)
  | 'f' :: cs => ('\x0c', cs)
  | 'n' :: cs => ('\n', cs)
  | 'r' :: cs => ('\r', cs)
  | 't' :: cs => ('\t', cs)
  | 'v' :: cs => ('\x0b', cs)
  | cs =>
    let ds := (cs.take 3).takeWhile isOctal
    if ds.isEmpty then ('\\', cs)
    else (Char.ofNat (Numeral.ofDigits 8 ds % 256), cs.drop ds.length)

/-- A text with its escapes resolved, and whether it asks for nothing more to be written. -/
def resolve : (fuel : Nat) → Octets → Octets × Bool
  | 0, _ | _, [] => ([], false)
  | _ + 1, '\\' :: 'c' :: _ => ([], true)
  | n + 1, '\\' :: cs =>
    let cs := match cs with
      | '0' :: d :: rest => if isOctal d then d :: rest else cs
      | _ => cs
    let (c, rest) := escape cs
    let (text, stop) := resolve n rest
    (c :: text, stop)
  | n + 1, c :: cs =>
    let (text, stop) := resolve n cs
    (c :: text, stop)

def resolved (cs : Octets) : Octets × Bool := resolve cs.length cs

def echoed (newline : Bool) : List Octets → Octets
  | [] => if newline then ['\n'] else []
  | [w] =>
    let (text, stop) := resolved w
    if stop || !newline then text else text ++ ['\n']
  | w :: ws =>
    let (text, stop) := resolved w
    if stop then text else text ++ ' ' :: echoed newline ws

def echo : List Octets → Octets
  | ['-', 'n'] :: ws => echoed false ws
  | ws => echoed true ws

structure Directive where
  left : Bool
  zeros : Bool
  plus : Bool
  space : Bool
  alternate : Bool
  width : Nat
  precision : Option Nat
  kind : Char

def maxWidth : Nat := 1000000

/-- Fill a text up to the width of a directive. -/
def Directive.pad (d : Directive) (sign digits : Octets) (numeric : Bool) : Octets :=
  let n := min d.width maxWidth - (sign.length + digits.length)
  if d.left then sign ++ digits ++ List.replicate n ' '
  else if d.zeros && numeric then sign ++ List.replicate n '0' ++ digits
  else List.replicate n ' ' ++ sign ++ digits

def Directive.text (d : Directive) (cs : Octets) : Octets :=
  d.pad [] (match d.precision with | some n => cs.take n | none => cs) false

def Directive.signOf (d : Directive) (negative : Bool) : Octets :=
  if negative then ['-'] else if d.plus then ['+'] else if d.space then [' '] else []

def Directive.integer (d : Directive) (n : Int) : Octets :=
  let radix := match d.kind with
    | 'o' => 8
    | 'x' | 'X' => 16
    | _ => 10
  let signed := d.kind == 'd' || d.kind == 'i'
  let size : Nat := if signed then n.natAbs else (n % 0x10000000000000000).toNat
  let digits := if size = 0 && d.precision = some 0 then [] else Nat.toDigits radix size
  let digits := if d.kind == 'X' then digits.map Char.toUpper else digits
  let digits := List.replicate (min (d.precision.getD 0) maxWidth - digits.length) '0' ++ digits
  let digits :=
    if d.alternate && d.kind == 'o' && digits.head? != some '0' then '0' :: digits else digits
  let mark : Octets :=
    if d.alternate && size != 0 && (d.kind == 'x' || d.kind == 'X') then ['0', d.kind] else []
  let sign := if signed then d.signOf (n < 0) else []
  { d with zeros := d.zeros && d.precision.isNone }.pad (sign ++ mark) digits true

def Directive.real (d : Directive) (x : Real) : Octets :=
  let upper := d.kind.isUpper
  let finish (cs : Octets) : Octets := if upper then cs.map Char.toUpper else cs
  let precision := min (d.precision.getD 6) maxWidth
  match x with
  | .infinite negative => d.pad (d.signOf negative) (finish "inf".toList) false
  | .undefined negative => d.pad (d.signOf negative) (finish "nan".toList) false
  | .finite negative m e =>
    let text := match d.kind.toLower with
      | 'e' => Real.scientific m e precision d.alternate
      | 'f' => Real.fixed m e precision d.alternate
      | 'g' => Real.general m e precision d.alternate
      | _ => Real.hexadecimal m e d.precision d.alternate
    let mark := if d.kind.toLower == 'a' then text.take 2 else []
    d.pad (d.signOf negative ++ finish mark) (finish (text.drop mark.length)) true

/-- What has become of a format and its words. -/
structure Printing where
  /-- The texts written so far, last one first. -/
  written : List Octets
  words : List Octets
  /-- Nothing more is to be written. -/
  stopped : Bool
  /-- What there is to say about the words, last remark first. -/
  remarks : List Octets
  /-- What is wrong with the format. -/
  flaw : Option Octets

namespace Printing

def emit (p : Printing) (cs : Octets) : Printing := { p with written := cs :: p.written }

def remark (p : Printing) (w : Octets) (text : String) : Printing :=
  { p with remarks := (w ++ ": ".toList ++ text.toList) :: p.remarks }

/-- The next word, which is empty where there is none. -/
def word (p : Printing) : Octets × Printing :=
  (p.words.headD [], { p with words := p.words.drop 1 })

/-- Whether a word is a character after a quote, and which. -/
def quoted? (w : Octets) : Option Nat :=
  match w with
  | '\x27' :: cs | '\x22' :: cs => some (cs.headD zero).toNat
  | _ => none

/-- Say what is wrong with a word of which `rest` has not been read. -/
def check (p : Printing) (w : Octets) (rest : Option Octets) (far : Bool) : Printing :=
  match rest with
  | none => if w.isEmpty then p else p.remark w "expected numeric value"
  | some (_ :: _) => p.remark w "not completely converted"
  | some [] => if far then p.remark w "Numerical result out of range" else p

/-- The integer that the next word means. -/
def integer (p : Printing) (signed : Bool) : Int × Printing :=
  let missing := p.words.isEmpty
  let (w, p) := p.word
  if missing then (0, p)
  else match quoted? w with
    | some n => (n, p)
    | none =>
      match Numeral.scan? none w with
      | none => (0, p.check w none false)
      | some (n, rest) =>
        if signed then (Numeral.clamp n, p.check w (some rest) !(Numeral.fits n))
        else
          let top : Int := 0xFFFFFFFFFFFFFFFF
          let far := n.natAbs > 0xFFFFFFFFFFFFFFFF
          (if far then top else n, p.check w (some rest) far)

def real (p : Printing) : Real × Printing :=
  let missing := p.words.isEmpty
  let (w, p) := p.word
  if missing then (.finite false 0 0, p)
  else match quoted? w with
    | some n => ((Real.ofFraction false n 1).1, p)
    | none =>
      match Real.scan? w with
      | none => (.finite false 0 0, p.check w none false)
      | some (x, far, rest) => (x, p.check w (some rest) far)

/-- A number that stands at the front of a text, and what follows the digits. -/
def digits (cs : Octets) : Nat × Octets :=
  let (ds, rest) := cs.span fun c => c.isDigit || c == '*'
  (Numeral.ofDigits 10 (ds.takeWhile Char.isDigit), rest)

/-- A number as it is given to a format, cut down to 32 bits. -/
def size (p : Printing) : Int × Printing :=
  let (n, p) := p.integer true
  (n.bmod 0x100000000, p)

def directive (p : Printing) (cs : Octets) : Directive × Printing × Octets :=
  let (flags, cs) := cs.span fun c => ['#', '-', '+', ' ', '0'].contains c
  let (width, p, cs) : Int × Printing × Octets :=
    match cs with
    | '*' :: cs => let (n, p) := p.size; (n, p, cs)
    | cs => let (n, cs) := digits cs; (n, p, cs)
  let (precision, p, cs) : Option Nat × Printing × Octets :=
    match cs with
    | '.' :: '*' :: cs => let (n, p) := p.size; (if n < 0 then none else some n.toNat, p, cs)
    | '.' :: cs => let (n, cs) := digits cs; (some n, p, cs)
    | cs => (none, p, cs)
  ({ left := flags.contains '-' || width < 0, zeros := flags.contains '0'
     plus := flags.contains '+', space := flags.contains ' ', alternate := flags.contains '#'
     width := width.natAbs, precision, kind := cs.headD zero }, p, cs.drop 1)

/-- Write what one conversion says, if there is such a conversion. -/
def convert (p : Printing) (d : Directive) : Option Printing :=
  if d.kind == 's' then
    let (w, p) := p.word
    some (p.emit (d.text w))
  else if d.kind == 'b' then
    let (w, p) := p.word
    let (text, stop) := resolved w
    some { p.emit (d.text text) with stopped := stop }
  else if d.kind == 'c' then
    let (w, p) := p.word
    some (p.emit (d.pad [] [w.headD zero] false))
  else if ['d', 'i'].contains d.kind then
    let (n, p) := p.integer true
    some (p.emit (d.integer n))
  else if ['u', 'o', 'x', 'X'].contains d.kind then
    let (n, p) := p.integer false
    some (p.emit (d.integer n))
  else if ['a', 'e', 'f', 'g'].contains d.kind.toLower then
    let (x, p) := p.real
    some (p.emit (d.real x))
  else none

def pass : (fuel : Nat) → Octets → Printing → Printing
  | 0, _, p | _, [], p => p
  | n + 1, '\\' :: cs, p =>
    let (c, rest) := escape cs
    pass n rest (p.emit [c])
  | n + 1, '%' :: '%' :: cs, p => pass n cs (p.emit ['%'])
  | n + 1, '%' :: cs, p =>
    let (d, p, rest) := p.directive cs
    if d.kind == zero then { p with flaw := some "missing format character".toList }
    else match p.convert d with
      | some p => if p.stopped then p else pass n rest p
      | none =>
        let shown := '%' :: cs.take (cs.length - rest.length)
        { p with flaw := some (shown ++ ": invalid directive".toList) }
  | n + 1, c :: cs, p => pass n cs (p.emit [c])

/-- Go over the format again as long as words are left that it asks for. -/
def passes (format : Octets) : (fuel : Nat) → Printing → Printing
  | 0, p => p
  | n + 1, p =>
    let after := pass (format.length + 1) format p
    if after.stopped || after.flaw.isSome || after.words.isEmpty ||
        after.words.length = p.words.length then after
    else passes format n after

end Printing

def printf (format : Octets) (words : List Octets) : Printing :=
  Printing.passes format (words.length + 1) ⟨[], words, false, [], none⟩

end GuidedShell.Script.Format
