import GuidedShell.Script.Step

/-! The variables and parameters of a script. -/
namespace GuidedShell.Script

namespace Machine

/-- The value of a parameter that has a single one. -/
def parameter? (m : Machine) (name : Octets) : Option Octets :=
  match name with
  | ['#'] => some (decimal m.args.length)
  | ['?'] => some (decimal m.status)
  | ['$'] => some (decimal m.scriptProcess)
  | ['!'] => m.lastBackground.map fun n => decimal n
  | ['-'] => some m.settings.letters
  | _ =>
    if name.head?.any Char.isDigit then
      match Numeral.ofDigits 10 name with
      | 0 => some m.name
      | n + 1 => m.args[n]?
    else m.value? name

/-- The home directories of the users that every system has. -/
def homes : List (String × String) :=
  [("root", "/root"), ("daemon", "/usr/sbin"), ("bin", "/bin"), ("sys", "/dev"), ("sync", "/bin"),
    ("games", "/usr/games"), ("man", "/var/cache/man"), ("lp", "/var/spool/lpd"),
    ("mail", "/var/mail"), ("news", "/var/spool/news"), ("uucp", "/var/spool/uucp"),
    ("proxy", "/bin"), ("www-data", "/var/www"), ("backup", "/var/backups"),
    ("list", "/var/list"), ("nobody", "/nonexistent")]

/-- The home directory of a user, or of the one who runs the script. -/
def home? (m : Machine) (user : Octets) : Option Octets :=
  if user.isEmpty then m.value? "HOME".toList
  else (homes.lookup (String.ofList user)).map (·.toList)

/-- Take the options of a script from its arguments, beginning with one of them. -/
def restartOptions (m : Machine) (index : Nat) : Machine :=
  { m with optionIndex := max 1 index, optionOffset := none }

end Machine

namespace Step

def count (w : Octets) : Step Int :=
  match Numeral.count? w with
  | some n => return n
  | none => fail ("Illegal number: ".toList ++ w)

/-- Give a variable a value, or take its value away. What is known about it stays known. -/
def assign (name : Octets) (value? : Option Octets) (exported readonly : Bool) : Step Unit := do
  let m ← get
  let exported := exported || m.isOn .allexport
  let before := m.var? name
  if let some v := before then
    if v.readonly then fail (name ++ ": is read only".toList)
  if name = "OPTIND".toList then
    if let some v := value? then
      let n ← count v
      modify (·.restartOptions n.toNat)
  if name = "PATH".toList then modify fun m => { m with found := [] }
  let lasting := before.any (·.lasting)
  if value?.isNone && !exported && !readonly && !lasting then modify (·.dropVariable name)
  else
    modify (·.putVariable name
      { value?
        exported := exported || before.any (·.exported)
        readonly := readonly
        lasting })

/-- The name in front of an assignment, which has to be a proper one. -/
def properName (w : Octets) : Step Octets := do
  let text := w.takeWhile (· != '=')
  if isName text then return text
  let (name, rest) := splitName w
  fail (name ++ rest.takeWhile (· != '=') ++ ": bad variable name".toList)

def setVariable (name value : Octets) : Step Unit := do
  assign (← properName name) (some value) false false

/-- Note what a variable is like, for the function that runs now to give back. -/
def hold (s : Saved) : Step Unit :=
  modify fun m =>
    match m.frames with
    | f :: fs => { m with frames := (s :: f) :: fs }
    | [] => m

/-- Make a variable belong to the command or the function that runs now. -/
def makeLocal (name : Octets) (value? : Option Octets) (exported : Bool) : Step Unit := do
  let m ← get
  let before := m.var? name
  match before with
  | none =>
    assign name value? exported false
    modify fun m =>
      match m.var? name with
      | some v => m.putVariable name { v with lasting := true }
      | none => m.putVariable name ⟨none, exported, false, true⟩
  | some v =>
    modify (·.putVariable name { v with lasting := true })
    if value?.isSome then
      try assign name value? exported false
      catch l =>
        modify (·.putVariable name v)
        throw l
  hold (.variable name before)

/-- Give back what has been noted. -/
def giveBack : Saved → Step Unit
  | .settings before => modify fun m => { m with settings := before }
  | .variable name before => do
    match before with
    | none =>
      modify (·.dropVariable name)
      unless isName name do fail (name ++ ": bad variable name".toList)
    | some v =>
      modify (·.putVariable name v)
      if name = "OPTIND".toList then
        let n := ((v.value?.bind Numeral.count?).getD 1).toNat
        modify (·.restartOptions n)
    if name = "PATH".toList then modify fun m => { m with found := [] }

/-- Give back what the innermost functions have to give back, until `count` of all are left. -/
def closeFrames (count : Nat) : Step Unit := do
  let closing ← modifyGet fun m =>
    let (closing, frames) := m.frames.splitAt (m.frames.length - count)
    (closing, { m with frames })
  for f in closing do
    for s in f do giveBack s

/-- Carry out something whose variables are given back afterwards, unless the script ends. -/
def withFrame (act : Step Unit) : Step Unit := do
  let m ← get
  set { m with frames := [] :: m.frames }
  let close : Step Unit := closeFrames m.frames.length
  try act
  catch l =>
    unless l.endsScript do close
    throw l
  close

end Step

end GuidedShell.Script
