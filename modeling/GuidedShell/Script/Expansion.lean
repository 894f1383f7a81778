import GuidedShell.Script.Arithmetic
import GuidedShell.Script.Glob
import GuidedShell.Script.Process
import GuidedShell.Script.Trim

/-! From words to what they stand for. -/
namespace GuidedShell.Script

/-- In what way a word is expanded. -/
structure Manner where
  /-- All arguments together may become several fields. -/
  full : Bool
  /-- Between quotes. -/
  quoted : Bool
  /-- The word stands in for a value, so that its own text may be split. -/
  asValue : Bool
  /-- A tilde at the front may be a home directory. -/
  tilde : Bool
  /-- A tilde after a colon may be one, too. -/
  colons : Bool

namespace Manner

def none : Manner := ⟨false, false, false, false, false⟩

/-- For a word of a command. -/
def field : Manner := ⟨true, false, false, true, false⟩

/-- For a single text. -/
def text : Manner := ⟨false, false, false, true, false⟩

/-- For what a variable is to be. -/
def value : Manner := ⟨false, false, false, true, true⟩

/-- For the text of a document. -/
def document : Manner := ⟨false, true, false, false, false⟩

end Manner

/-- Whether nothing that follows the piece in its word counts. -/
def Piece.isLast : Piece → Bool
  | .parameter _ .plain filled _ => filled
  | _ => false

namespace Machine

/-- The grains of a value, a stretch that may be split unless it is quoted. -/
def stretch (m : Machine) (man : Manner) (name : Octets) (gs : List Grain) : List Grain :=
  if !man.quoted then .opened false :: gs ++ [.closed]
  else if name = ['@'] && !m.args.isEmpty then .opened true :: gs ++ [.closed]
  else gs

/-- All arguments as one text. Where they may become several fields, zeros stand between them. -/
def joinedArgs (m : Machine) (man : Manner) (name : Octets) : Octets :=
  let separates := man.full && (!man.quoted || name = ['@'])
  match m.value? "IFS".toList with
  | none => Octets.joined [if separates && man.quoted then zero else ' '] m.args
  | some ifs => Octets.joined (if separates then [zero] else ifs.take 1) m.args

def parameterIn? (m : Machine) (man : Manner) (name : Octets) : Option Octets :=
  if name = ['@'] || name = ['*'] then some (m.joinedArgs man name) else m.parameter? name

def grainsOf (man : Manner) (cs : Octets) : List Grain :=
  cs.map fun c => .char c ((man.quoted && c != zero) || (0x81 ≤ c.toNat && c.toNat ≤ 0x88))

/-- The grains of a text in which a tilde at the front counts. `complete` tells that the word ends
with the text. -/
def tildeText (m : Machine) (man : Manner) (complete : Bool) (cs : Octets) : List Grain × Octets :=
  match cs with
  | '~' :: rest =>
    let (user, after) := rest.span fun c => c != '/' && !(man.colons && c == ':')
    match if after.isEmpty && !complete then none else m.home? user with
    | some home => (Grain.ofText true home, after)
    | none => ([], cs)
  | _ => ([], cs)

/-- The grains of a text in which tildes after colons count. -/
def colonText (m : Machine) (man : Manner) (complete : Bool) : (fuel : Nat) → Octets → List Grain
  | 0, cs => Grain.ofText false cs
  | n + 1, cs =>
    let (home, cs) := m.tildeText man complete cs
    let (front, rest) := cs.span (· != ':')
    home ++ Grain.ofText false front ++
      match rest with
      | c :: rest => .char c false :: m.colonText man complete n rest
      | [] => []

/-- The grains of a text that is written in a word. -/
def plainText (m : Machine) (man : Manner) (inQuotes complete : Bool) (cs : Octets) : List Grain :=
  let gs : List Grain :=
    if man.colons then
      if man.tilde then m.colonText man complete cs.length cs
      else
        let (front, rest) := cs.span (· != ':')
        Grain.ofText false front ++
          match rest with
          | c :: rest => .char c false :: m.colonText man complete rest.length rest
          | [] => []
    else if man.tilde then
      let (home, cs) := m.tildeText man complete cs
      home ++ Grain.ofText false cs
    else Grain.ofText false cs
  if man.asValue && !man.quoted && !inQuotes && !gs.isEmpty then
    .opened false :: gs ++ [.closed]
  else gs

end Machine

namespace Step

/-- A use of a parameter that has no value. -/
def unset {α : Type} (name : Octets) (filled : Bool) : Step α :=
  fail (name ++ ": parameter not set".toList ++ if filled then " or null".toList else [])

/-- What remains of a value without a front or a back that fits a pattern. -/
def trimmed (front longest : Bool) (man : Manner) (p v : Octets) : List Grain :=
  if v.contains zero then Trim.remainder front longest man.quoted p v
  else
    Machine.grainsOf man
      (if front then v.drop ((Pattern.front? longest p v).getD 0)
      else v.take ((Pattern.back? longest p v).getD v.length))

/-- The grains of a parameter, where `word` gives those of the word that goes with it. -/
def useParameter (man : Manner) (inQuotes : Bool) (name : Octets) (treatment : Treatment)
    (filled isBare : Bool) (word : Manner → Step (List Grain)) : Step (List Grain) := do
  let man := { man with quoted := man.quoted || inQuotes }
  let m ← get
  if treatment = .senseless then fail "Bad substitution".toList
  let value? := m.parameterIn? man name
  let counts := value?.any fun v => !(filled && v.isEmpty)
  let own := m.stretch man name (Machine.grainsOf man (value?.getD []))
  let inner := { man with tilde := true, asValue := true }
  match treatment with
  | .useDefault =>
    if counts then return own
    word inner
  | .useOther =>
    if counts then word inner else return m.stretch man name []
  | .assignDefault =>
    if counts then return own
    setVariable name (Grain.text (← word .text))
    let m ← get
    return m.stretch man name (Machine.grainsOf man ((m.parameterIn? man name).getD []))
  | .demand =>
    if counts then return own
    let text := Grain.text (← word .text)
    if isBare then unset name filled
    fail (name ++ ": ".toList ++ text)
  | treatment =>
    if !counts && m.isOn .nounset then unset name false
    match treatment with
    | .length =>
      let value? := m.parameterIn? { man with full := false } name
      return m.stretch man name (Grain.ofText false (decimal (value?.getD []).length))
    | .dropFront longest =>
      if !counts then return []
      let p := Grain.pattern (← word .text)
      return m.stretch man name (trimmed true longest man p (value?.getD []))
    | .dropBack longest =>
      if !counts then return []
      let p := Grain.pattern (← word .text)
      return m.stretch man name (trimmed false longest man p (value?.getD []))
    | _ => return if counts then own else []

mutual

def expand (man : Manner) (inQuotes : Bool) : Word → Step (List Grain)
  | [] => return []
  | .quote :: rest => do
    let man := { man with tilde := false }
    match rest with
    | .parameter name treatment filled w :: .quote :: after =>
      if !(name = ['@'] && treatment = .plain && !filled && w.isEmpty) then
        return .quote ::
          (← expand man (!inQuotes) (.parameter name treatment filled w :: .quote :: after))
      let m ← get
      if inQuotes then
        let own := Machine.grainsOf man (m.joinedArgs man name)
        return .quote :: m.stretch man name own ++ .quote :: (← expand man inQuotes after)
      let quoted := { man with quoted := true }
      let own := Machine.grainsOf quoted (m.joinedArgs quoted name)
      return m.stretch quoted name own ++ (← expand man inQuotes after)
    | rest => return .quote :: (← expand man (!inQuotes) rest)
  | p :: rest => do
    let gs ← expandPiece man inQuotes rest.isEmpty p
    if p.isLast then return gs
    return gs ++ (← expand { man with tilde := false } inQuotes rest)
termination_by structural w => w

/-- The grains of a piece. `complete` tells that the word ends with it. -/
def expandPiece (man : Manner) (inQuotes complete : Bool) : Piece → Step (List Grain)
  | .text cs => return (← get).plainText man inQuotes complete cs
  | .firm c => return [.char c true]
  | .quote => return [.quote]
  | .output body => do
    let quoted := { man with quoted := man.quoted || inQuotes }
    let text ← capture body
    let text := (text.filter (· != zero)).reverse.dropWhile (· == '\n') |>.reverse
    let gs := Machine.grainsOf quoted text
    return if quoted.quoted then gs else .opened false :: gs ++ [.closed]
  | .arithmetic e => do
    let text := Grain.text (← expand .none false e)
    let gs := Grain.ofText false (decimal (← Arithmetic.evaluate text))
    return if man.quoted || inQuotes then gs else .opened false :: gs ++ [.closed]
  | .parameter name treatment filled w => do
    let man := { man with tilde := false }
    let word : Manner → Step (List Grain) := fun man => expand man false w
    if treatment = .plain && filled then
      let gs ← useParameter man inQuotes name treatment filled true word
      return gs ++ (← expand man inQuotes w)
    useParameter man inQuotes name treatment filled w.isEmpty word
termination_by structural p => p

end

end Step

end GuidedShell.Script
