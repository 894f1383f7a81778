import GuidedShell.Script.Builtin.Options
import GuidedShell.Script.Grain

/-! Reading a line of the input into variables. -/
namespace GuidedShell.Script.Step

/-- What `read` takes from an input: the stretches that may be split, with the protected characters
between them, whether the line was ended, and how much of the input is gone. -/
structure Line where
  grains : List Grain
  ended : Bool
  size : Nat

/-- Read one line. Unless it is `raw`, a backslash protects the character after it, and joins two
lines. -/
def takeLine (raw : Bool) (cs : Octets) : Line :=
  go cs.length 0 [.opened false] cs
where
  go : (fuel : Nat) → (size : Nat) → (held : List Grain) → Octets → Line
    | 0, size, held, _ | _ + 1, size, held, [] => ⟨(Grain.closed :: held).reverse, false, size⟩
    | n + 1, size, held, c :: cs =>
      if c == zero then go n (size + 1) held cs
      else if c == '\n' then ⟨(Grain.closed :: held).reverse, true, size + 1⟩
      else if c == '\\' && !raw then
        let zeros := cs.takeWhile (· == zero)
        match cs.drop zeros.length with
        | [] => go n (size + 1 + zeros.length) held []
        | d :: rest =>
          let firm := if d == '\n' then [] else [Grain.char d true]
          go n (size + 2 + zeros.length) (.opened false :: firm ++ .closed :: held) rest
      else go n (size + 1) (.char c false :: held) cs

/-- Give fields to variables, and nothing to those for which none is left. -/
def shareOut : List Octets → List Octets → Step Unit
  | [], _ => return
  | name :: names, fields => do
    setVariable name (fields.headD [])
    shareOut names (fields.drop 1)

/-- Read one line from a stream. A signal with orders ends the line, too. -/
def takeIn (raw : Bool) (number : Nat) : Step Line := do
  let (line, input) ← persist do
    disclose
    let m ← get
    let input := (m.shared.ahead? number).getD []
    let line := takeLine raw input
    if !line.ended && m.alarm.isNone && m.shared.isFed number then
      pause (.input number (m.shared.depth number))
      return none
    return some (line, input)
  modify fun m => { m with
    shared := m.shared.consume number line.size (input.drop line.size) }
  return line

def read (ws : List Octets) : Step Unit := do
  let (given, names) ← optionsOf "p:r" ws
  if names.isEmpty then fail "arg count".toList
  let line ← match (← get).stream? 0 with
    | some number => takeIn (given.any (·.1 == 'r')) number
    | none => pure ⟨[], false, 0⟩
  let fields := Grain.fields (← get).separators (some names.length) line.grains
  shareOut names (fields.map Grain.text)
  done (if line.ended then 0 else 1)

end GuidedShell.Script.Step
