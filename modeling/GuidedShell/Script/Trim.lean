import GuidedShell.Script.Grain

/-! Trimming several fields at once. They stand one after another with zeros between them, and with
marks before the characters that mean something in patterns. What a pattern is compared with is a
copy of the first field without its marks, so that the place in the copy and the place in the fields
run apart: one goes on by a character where the other passes a mark or a zero. -/
namespace GuidedShell.Script.Trim

def mark : Char := '\u0081'

/-- The fields with their marks. -/
def marked (quoted : Bool) (cs : Octets) : Octets :=
  cs.flatMap fun c =>
    if (quoted && "!*?[=~:/-]\\".toList.contains c) || (0x81 ≤ c.toNat && c.toNat ≤ 0x88) then
      [mark, c]
    else [c]

/-- The grains of fields with marks. -/
def grains : Octets → List Grain
  | [] => []
  | [c] => [.char c false]
  | c :: d :: cs =>
    if c = mark then .char d true :: grains cs else .char c false :: grains (d :: cs)

/-- A text without its marks. -/
def unmarked (cs : Octets) : Octets := Grain.text (grains cs)

/-- What is compared: the fields, the pattern and perhaps the copy of the first field, with a zero
after each. -/
structure Strip where
  fields : Octets
  pattern : Octets
  copied : Bool

namespace Strip

def copy (t : Strip) : Octets := if t.copied then unmarked t.fields.beforeZero else []

def cells (t : Strip) : Octets :=
  t.fields ++ zero :: t.pattern ++ zero :: if t.copied then t.copy ++ [zero] else []

/-- The place where what is compared begins. -/
def start (t : Strip) : Nat :=
  if t.copied then t.fields.length + t.pattern.length + 2 else 0

/-- The place where what is compared ends. -/
def stop (t : Strip) : Nat :=
  if t.copied then t.start + t.copy.length else t.fields.length

/-- Whether the pattern fits up to a place, or from the place on. -/
def fits (t : Strip) (front : Bool) (place : Nat) : Bool :=
  let cells := if front then t.cells.set place zero else t.cells
  Pattern.fits (Octets.beforeZero (cells.drop (t.fields.length + 1)))
    (Octets.beforeZero (cells.drop (if front then t.start else place)))

/-- How much of the fields stands before the first place at which the pattern fits. -/
def first? (t : Strip) (front : Bool) : Option Nat :=
  go (t.fields.length + 1) t.start 0
where
  go : (fuel : Nat) → (place passed : Nat) → Option Nat
    | 0, _, _ => none
    | n + 1, place, passed =>
      if t.fits front place then some passed
      else
        let c := (t.fields[passed]?).getD zero
        if c = zero then none
        else go n (place + 1) (if c = mark then passed + 2 else passed + 1)

/-- How much of the fields stands before the last place at which the pattern fits. `ahead` is how
many marks are known to stand right before. -/
def last? (t : Strip) (front : Bool) : Option Nat :=
  go (t.fields.length + 1) t.stop t.fields.length 0
where
  go : (fuel : Nat) → (place passed ahead : Nat) → Option Nat
    | 0, _, _, _ => none
    | n + 1, place, passed, ahead =>
      if t.fits front place then some passed
      else if passed = 0 then none
      else
        let passed := passed - 1
        let ahead :=
          if ahead = 0 then ((t.fields.take passed).reverse.takeWhile (· == mark)).length
          else ahead - 1
        let skip := ahead % 2
        go n (place - 1) (passed - skip) (ahead - skip)

end Strip

/-- What remains of several fields. -/
def remainder (front longest quoted : Bool) (pattern cs : Octets) : List Grain :=
  let fields := marked quoted cs
  let t : Strip := ⟨fields, pattern, fields.beforeZero.contains mark⟩
  match if front = longest then t.last? front else t.first? front with
  | none => grains fields
  | some n => grains (if front then fields.drop n else fields.take n)

end GuidedShell.Script.Trim
