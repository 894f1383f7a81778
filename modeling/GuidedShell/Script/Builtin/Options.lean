import GuidedShell.Script.Variables

/-! The options of commands. -/
namespace GuidedShell.Script.Step

/-- An option, and the argument that belongs to it. -/
abbrev Given := Char × Octets

/-- Whether a letter is an option of a command, and takes an argument. -/
def optionIn? (c : Char) : Octets → Option Bool
  | [] => none
  | d :: ':' :: ds => if c == d then some true else optionIn? c ds
  | d :: ds => if c == d then some false else optionIn? c ds

/-- The options at the front of the words of a command, and the words after them. Letters may stand
together in one word. -/
def options (letters : Octets) : (fuel : Nat) → (inWord : Octets) → List Octets →
    Step (List Given × List Octets)
  | 0, _, ws => return ([], ws)
  | n + 1, c :: cs, ws => do
    match optionIn? c letters with
    | none => fail ("Illegal option -".toList ++ [c])
    | some false =>
      let (given, rest) ← options letters n cs ws
      return ((c, []) :: given, rest)
    | some true =>
      match cs, ws with
      | [], [] => fail ("No arg for -".toList ++ c :: " option".toList)
      | [], w :: ws =>
        let (given, rest) ← options letters n [] ws
        return ((c, w) :: given, rest)
      | cs, ws =>
        let (given, rest) ← options letters n [] ws
        return ((c, cs) :: given, rest)
  | n + 1, [], ws => do
    match ws with
    | ['-', '-'] :: ws => return ([], ws)
    | ('-' :: c :: cs) :: ws => options letters n (c :: cs) ws
    | ws => return ([], ws)

def optionsOf (letters : String) (ws : List Octets) : Step (List Given × List Octets) :=
  options letters.toList (ws.foldl (fun n w => n + w.length + 1) 1) [] ws

/-- The words of a command that has no options. -/
def operands (ws : List Octets) : Step (List Octets) := do return (← optionsOf "" ws).2

/-- What `getopts` finds: the letter to report, the argument or none, what to complain about, and
where to go on. -/
structure Pick where
  letter : Char
  argument : Option Octets
  complaint : Octets
  finished : Bool
  index : Nat
  offset : Option Nat

def pick (letters : Octets) (args : List Octets) (index : Nat) (offset : Option Nat) : Pick :=
  let quiet := letters.head? == some ':'
  let left : Octets := match offset with
    | some n => if index ≤ 1 then [] else ((args[index - 2]?).getD []).drop n
    | none => []
  let taken : Option (Octets × Nat) :=
    if !left.isEmpty then some (left, index)
    else match args[index - 1]? with
      | some ('-' :: c :: cs) => if c == '-' && cs.isEmpty then none else some (c :: cs, index + 1)
      | _ => none
  match taken with
  | none =>
    let stop := args[index - 1]? = some ['-', '-'] && left.isEmpty
    ⟨'?', none, [], true, if stop then index + 1 else index, none⟩
  | some (text, index) =>
    let c := text.headD zero
    let rest := text.drop 1
    let here : Option Nat := some (((args[index - 2]?).getD []).length - rest.length)
    match optionIn? c letters with
    | none =>
      if quiet then ⟨'?', some [c], [], false, index, here⟩
      else ⟨'?', none, "Illegal option -".toList ++ [c, '\n'], false, index, here⟩
    | some false => ⟨c, some [], [], false, index, here⟩
    | some true =>
      if !rest.isEmpty then ⟨c, some rest, [], false, index, none⟩
      else match args[index - 1]? with
        | some w => ⟨c, some w, [], false, index + 1, none⟩
        | none =>
          if quiet then ⟨':', some [c], [], false, index, none⟩
          else ⟨'?', none, "No arg for -".toList ++ c :: " option\n".toList, false, index, none⟩

def getopts (ws : List Octets) : Step Unit := do
  match ← operands ws with
  | letters :: name :: more =>
    let m ← get
    let args := if more.isEmpty then m.args else more
    let (index, offset) :=
      if m.optionIndex > args.length + 1 then (1, none) else (m.optionIndex, m.optionOffset)
    let p := pick letters args index offset
    modify fun m => { m with optionIndex := args.length + 1000000 }
    unless p.complaint.isEmpty do mutter p.complaint
    unless p.finished do assign "OPTARG".toList p.argument false false
    assignIndex p.index
    setVariable name [p.letter]
    modify fun m => { m with optionIndex := p.index, optionOffset := p.offset }
    done (if p.finished then 1 else 0)
  | _ => fail "Usage: getopts optstring var [arg...]".toList
where
  /-- The next argument as a variable, which does not restart the options. -/
  assignIndex (index : Nat) : Step Unit := do
    let name := "OPTIND".toList
    let m ← get
    let v := (m.var? name).getD ⟨none, false, false, true⟩
    if v.readonly then fail (name ++ ": is read only".toList)
    let exported := v.exported || m.isOn .allexport
    set (m.putVariable name { v with value? := some (decimal index), exported })

end GuidedShell.Script.Step
