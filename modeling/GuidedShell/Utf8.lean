/-! UTF-8, read one byte at a time. Reading is strict, or replaces what it cannot read. -/
namespace GuidedShell

abbrev Bytes := List UInt8

namespace Utf8

def encodeChar (c : Char) : Bytes :=
  let n := c.toNat
  let tail (m : Nat) : UInt8 := UInt8.ofNat (0x80 + m % 0x40)
  if n < 0x80 then [UInt8.ofNat n]
  else if n < 0x800 then [UInt8.ofNat (0xC0 + n / 0x40), tail n]
  else if n < 0x10000 then [UInt8.ofNat (0xE0 + n / 0x1000), tail (n / 0x40), tail n]
  else [UInt8.ofNat (0xF0 + n / 0x40000), tail (n / 0x1000), tail (n / 0x40), tail n]

def encode (cs : List Char) : Bytes := cs.flatMap encodeChar

/-- Between two characters, or inside one. Inside, `more` bytes follow the next byte, and the next
byte lies between `low` and `high`. -/
inductive State where
  | start
  | inside (more : Nat) (bits : Nat) (low high : UInt8)

/-- The state after a first byte that is not a whole character. -/
def State.lead (b : UInt8) : Option State :=
  if 0xC2 ≤ b ∧ b ≤ 0xDF then some (.inside 0 (b.toNat - 0xC0) 0x80 0xBF)
  else if b = 0xE0 then some (.inside 1 0x0 0xA0 0xBF)
  else if b = 0xED then some (.inside 1 0xD 0x80 0x9F)
  else if 0xE1 ≤ b ∧ b ≤ 0xEF then some (.inside 1 (b.toNat - 0xE0) 0x80 0xBF)
  else if b = 0xF0 then some (.inside 2 0 0x90 0xBF)
  else if b = 0xF4 then some (.inside 2 4 0x80 0x8F)
  else if 0xF1 ≤ b ∧ b ≤ 0xF3 then some (.inside 2 (b.toNat - 0xF0) 0x80 0xBF)
  else none

/-- The state after a byte and the character that it ends, or `none` where it cannot stand. -/
def State.step : State → UInt8 → Option (State × Option Char)
  | .start, b =>
    if b < 0x80 then some (.start, some (Char.ofNat b.toNat))
    else (State.lead b).map (·, none)
  | .inside more bits low high, b =>
    if low ≤ b ∧ b ≤ high then
      let bits := bits * 0x40 + (b.toNat - 0x80)
      match more with
      | 0 => some (.start, some (Char.ofNat bits))
      | more + 1 => some (.inside more bits 0x80 0xBF, none)
    else none

def decodeFrom : State → Bytes → Option (List Char)
  | .start, [] => some []
  | .inside .., [] => none
  | s, b :: bs =>
    match s.step b with
    | none => none
    | some (s', none) => decodeFrom s' bs
    | some (s', some c) => (decodeFrom s' bs).map (c :: ·)

/-- The text with these bytes, if they are well formed. -/
def decode? (bs : Bytes) : Option (List Char) := decodeFrom .start bs

/-- What stands for bytes that are no character. -/
def replacement : Char := '\uFFFD'

/-- The characters that become known with a byte when reading never stops. A character that the
byte breaks off is replaced as a whole, and the byte is then read afresh. -/
def State.advance (s : State) (b : UInt8) : List Char × State :=
  match s.step b with
  | some (s', c) => (c.toList, s')
  | none =>
    match s with
    | .start => ([replacement], .start)
    | .inside .. =>
      match State.start.step b with
      | some (s', c) => (replacement :: c.toList, s')
      | none => ([replacement, replacement], .start)

def State.finish : State → List Char
  | .start => []
  | .inside .. => [replacement]

def decodeLossyFrom (s : State) : Bytes → List Char
  | [] => s.finish
  | b :: bs => (s.advance b).1 ++ decodeLossyFrom (s.advance b).2 bs

/-- The text with these bytes. Each longest start of a character that is not continued, and each
byte that starts none, becomes one replacement character. -/
def decodeLossy (bs : Bytes) : List Char := decodeLossyFrom .start bs

end Utf8

end GuidedShell
