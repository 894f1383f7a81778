import GuidedShell.Script.Variables

/-! Arithmetic in scripts: integers of 64 bits. An expression is worked out while it is read. -/
namespace GuidedShell.Script.Arithmetic

inductive Token where
  | number (n : Int)
  | name (cs : Octets)
  | sign (s : String)
  | finish
  /-- A character that has no meaning. -/
  | stray
  deriving DecidableEq

/-- The signs, longer ones before those that they begin with. -/
def signs : List String :=
  ["<<=", ">>=", "<<", ">>", "<=", ">=", "==", "!=", "&&", "||", "+=", "-=", "*=", "/=", "%=",
    "&=", "^=", "|=", "+", "-", "*", "/", "%", "<", ">", "!", "~", "&", "|", "^", "?", ":", "(",
    ")", "="]

/-- The operators of two operands, tightest first. -/
def levels : List (List String) :=
  [["*", "/", "%"], ["+", "-"], ["<<", ">>"], ["<", "<=", ">", ">="], ["==", "!="], ["&"], ["^"],
    ["|"]]

/-- How loosely an operator of two operands binds. -/
def level? (s : String) : Option Nat := levels.findIdx? (·.contains s)

/-- The operator of an assignment that works on the value before. -/
def compound? (s : String) : Option String :=
  ["+", "-", "*", "/", "%", "<<", ">>", "&", "^", "|"].find? fun op => op ++ "=" == s

/-- An expression as far as it has been read. -/
structure Reading where
  whole : Octets
  rest : Octets
  /-- The token after the last operand. -/
  last : Token

abbrev Reckoner := StateT Reading Step

def complain {α : Type} (text : String) : Reckoner α := do
  let e ← get
  Step.fail ("arithmetic expression: ".toList ++ text.toList ++ ": \x22".toList ++ e.whole ++
    "\x22".toList)

def next : Reckoner Token := do
  let e ← get
  match e.rest.dropWhile fun c => c == ' ' || c == '\t' || c == '\n' with
  | [] => return .finish
  | c :: cs =>
    if c.isDigit then
      match Numeral.scan? none (c :: cs) with
      | some (n, rest) =>
        set { e with rest }
        return .number (Numeral.clamp n)
      | none => return .stray
    else if isNameStart c then
      let (name, rest) := splitName (c :: cs)
      set { e with rest }
      return .name name
    else match signs.find? fun s => s.toList.isPrefixOf (c :: cs) with
      | some s =>
        set { e with rest := (c :: cs).drop s.length }
        return .sign s
      | none => return .stray

def noteLast (t : Token) : Reckoner Unit := modify fun e => { e with last := t }

def truth (b : Bool) : Int := if b then 1 else 0

def valueOf (name : Octets) : Step Int := do
  let text := ((← get).value? name).getD []
  match Numeral.whole? none text with
  | some n => return n
  | none => Step.fail ("Illegal number: ".toList ++ text)

def apply (op : String) (a b : Int) : Reckoner Int := do
  let words (f : Int64 → Int64 → Int64) : Int := (f (Int64.ofInt a) (Int64.ofInt b)).toInt
  match op with
  | "|" => return words (· ||| ·)
  | "^" => return words (· ^^^ ·)
  | "&" => return words (· &&& ·)
  | "==" => return truth (a == b)
  | "!=" => return truth (a != b)
  | "<" => return truth (a < b)
  | ">" => return truth (a > b)
  | "<=" => return truth (a ≤ b)
  | ">=" => return truth (a ≥ b)
  | "<<" => return words (· <<< ·)
  | ">>" => return words (· >>> ·)
  | "+" => return Numeral.wrap (a + b)
  | "-" => return Numeral.wrap (a - b)
  | "*" => return Numeral.wrap (a * b)
  | _ =>
    if b = 0 then complain "division by zero"
    if a = Numeral.least && b = -1 then throw (.ended (.killed 8))
    return if op = "/" then Int.tdiv a b else Int.tmod a b

mutual

/-- The value of an expression that begins with a token. Where it is `idle`, nothing comes of it. -/
def assignment : (fuel : Nat) → (idle : Bool) → Token → Reckoner Int
  | 0, _, _ => complain "expecting EOF"
  | n + 1, idle, t => do
    let op ← next
    match t, op with
    | .name name, .sign s =>
      if s = "=" || (compound? s).isSome then
        let b ← assignment n idle (← next)
        if idle then return b
        let v ← match compound? s with
          | some op => apply op (← valueOf name) b
          | none => pure b
        Step.setVariable name (decimal v)
        return v
      else choice n idle t op
    | _, _ => choice n idle t op
termination_by structural n => n

/-- One of two values, which a question mark and a colon offer. -/
def choice : (fuel : Nat) → (idle : Bool) → Token → Token → Reckoner Int
  | 0, _, _, _ => complain "expecting EOF"
  | n + 1, idle, t, op => do
    let a ← disjunction n idle t op
    if (← get).last != .sign "?" then return a
    let b ← assignment n (idle || a = 0) (← next)
    if (← get).last != .sign ":" then complain "expecting ':'"
    let t ← next
    let c ← choice n (idle || a != 0) t (← next)
    return if a != 0 then b else c
termination_by structural n => n

def disjunction : (fuel : Nat) → (idle : Bool) → Token → Token → Reckoner Int
  | 0, _, _, _ => complain "expecting EOF"
  | n + 1, idle, t, op => do
    let a ← conjunction n idle t op
    if (← get).last != .sign "||" then return a
    let t ← next
    let b ← disjunction n (idle || a != 0) t (← next)
    return truth (a != 0 || b != 0)
termination_by structural n => n

def conjunction : (fuel : Nat) → (idle : Bool) → Token → Token → Reckoner Int
  | 0, _, _, _ => complain "expecting EOF"
  | n + 1, idle, t, op => do
    let a ← operand n idle t op
    let a ← operation n idle a levels.length
    if (← get).last != .sign "&&" then return a
    let t ← next
    let b ← conjunction n (idle || a = 0) t (← next)
    return truth (a != 0 && b != 0)
termination_by structural n => n

/-- Go on from an operand through operators that bind more tightly than `limit`. -/
def operation : (fuel : Nat) → (idle : Bool) → Int → (limit : Nat) → Reckoner Int
  | 0, _, _, _ => complain "expecting EOF"
  | n + 1, idle, a, limit => do
    match (← get).last with
    | .sign op =>
      match level? op with
      | none => return a
      | some l =>
        if limit ≤ l then return a
        let t ← next
        let b ← operand n idle t (← next)
        let b ← operation n idle b l
        let a ← if idle then pure b else apply op a b
        operation n idle a limit
    | _ => return a
termination_by structural n => n

/-- An operand, whose first token and the one after it are known. -/
def operand : (fuel : Nat) → (idle : Bool) → Token → Token → Reckoner Int
  | 0, _, _, _ => complain "expecting EOF"
  | n + 1, idle, t, op => do
    match t with
    | .sign "(" =>
      let a ← assignment n idle op
      if (← get).last != .sign ")" then complain "expecting ')'"
      noteLast (← next)
      return a
    | .number k =>
      noteLast op
      return k
    | .name name =>
      noteLast op
      if idle then return 1
      valueOf name
    | .sign "+" => operand n idle op (← next)
    | .sign "-" => return Numeral.wrap (-(← operand n idle op (← next)))
    | .sign "!" => return truth ((← operand n idle op (← next)) == 0)
    | .sign "~" => return -(← operand n idle op (← next)) - 1
    | _ => complain "expecting primary"
termination_by structural n => n

end

def evaluate (cs : Octets) : Step Int := do
  let reckon : Reckoner Int := do
    let a ← assignment (8 * cs.length + 64) false (← next)
    if (← get).last != .finish then complain "expecting EOF"
    return a
  reckon.run' ⟨cs, cs, .finish⟩

end GuidedShell.Script.Arithmetic
