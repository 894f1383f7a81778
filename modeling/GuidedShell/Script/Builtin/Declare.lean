import GuidedShell.Script.Builtin.Options
import GuidedShell.Script.Words

/-! Commands that declare variables, settings and aliases. -/
namespace GuidedShell.Script.Step

/-- The variables that pass, by name, as a script can read them back after `front`. -/
def listing (m : Machine) (front : Octets) (passes : Variable → Bool) : Octets :=
  let vars := (m.vars.filter fun v => passes v.2).mergeSort fun a b => !b.1.isBelow a.1
  vars.flatMap fun (name, v) =>
    front ++ name ++
      (match v.value? with
        | some value => '=' :: enclosed value
        | none => []) ++ ['\n']

/-- Mark variables as exported or as fixed. -/
def mark (readonly : Bool) (w : Octets) : Step Unit := do
  match w.span (· != '=') with
  | (_, '=' :: value) => assign (← properName w) (some value) (!readonly) readonly
  | (name, _) =>
    match (← get).var? name with
    | some v =>
      modify (·.putVariable name
        { v with exported := v.exported || !readonly, readonly := v.readonly || readonly })
    | none => assign (← properName name) none (!readonly) readonly

def declare (title : Octets) (ws : List Octets) : Step Unit := do
  let readonly := title.head? == some 'r'
  let (given, ws) ← optionsOf "p" ws
  if given.isEmpty && !ws.isEmpty then
    for w in ws do mark readonly w
  else
    say (listing (← get) (title ++ [' ']) fun v => if readonly then v.readonly else v.exported)
  done 0

/-- Make variables local. The name of one that is given a value is looked at only when it is given
back. -/
def declareLocal (ws : List Octets) : Step Unit := do
  if (← get).frames.isEmpty then fail "not in a function".toList
  for w in ws do
    if w = ['-'] then hold (.settings (← get).settings)
    else match w.span (· != '=') with
      | (name, '=' :: value) => makeLocal name (some value) false
      | (name, _) =>
        if ((← get).var? name).isNone then
          let _ ← properName name
        makeLocal name none false
  done 0

def forget (ws : List Octets) : Step Unit := do
  let (given, ws) ← optionsOf "vf" ws
  let functions := (given.getLast?.map (·.1)) == some 'f'
  for w in ws do
    if functions then
      modify fun m => { m with functions := m.functions.filter (·.1 != w) }
    else
      assign (← properName w) none false false
  done 0

/-- Switch the settings that letters name. -/
def switchLetters (on : Bool) : Octets → List Octets → Step (List Octets)
  | [], ws => return ws
  | 'o' :: cs, ws => do
    switchName on ws.head?
    switchLetters on cs (ws.drop 1)
  | c :: cs, ws => do
    match Setting.ofLetter? c with
    | some s => modify fun m => { m with settings := m.settings.switch s on }
    | none => fail ("Illegal option -".toList ++ [c])
    switchLetters on cs ws
where
  /-- Switch a setting by name, or show all of them. -/
  switchName (on : Bool) : Option Octets → Step Unit
    | none => do
      let settings := (← get).settings
      say (if on then settings.listing else settings.commands)
    | some name =>
      match Setting.ofName? name with
      | some s => modify fun m => { m with settings := m.settings.switch s on }
      | none => fail ("Illegal option -o ".toList ++ name)

/-- Scripts have no terminal from which jobs could be controlled. -/
def dropMonitor (before : Settings) : Step Unit := do
  let m ← get
  if m.isOn .monitor && !before.isOn .monitor then
    report "can't access tty; job control turned off".toList
    modify fun m => { m with settings := m.settings.switch .monitor false }

def setArgs (args : List Octets) : Step Unit :=
  modify fun m => { m with args, optionIndex := 1, optionOffset := none }

def configure : (fuel : Nat) → List Octets → Step Unit
  | 0, _ => return
  | n + 1, ws => do
    match ws with
    | [] => return
    | ['-'] :: ws =>
      modify fun m =>
        { m with settings := (m.settings.switch .xtrace false).switch .verbose false }
      unless ws.isEmpty do setArgs ws
    | ['-', '-'] :: ws => setArgs ws
    | ('-' :: cs) :: ws => configure n (← switchLetters true cs ws)
    | ('+' :: cs) :: ws => configure n (← switchLetters false cs ws)
    | ws => setArgs ws

def reconfigure (ws : List Octets) : Step Unit := do
  if ws.isEmpty then
    say (listing (← get) [] fun v => v.value?.isSome)
  else
    let before := (← get).settings
    configure (ws.length + 1) ws
    dropMonitor before
  done 0

def showAlias (a : Octets × Octets) : Octets := a.1 ++ '=' :: enclosed a.2 ++ ['\n']

def nameAliases (ws : List Octets) : Step Unit := do
  if ws.isEmpty then
    say ((Machine.inTableOrder 39 (·.1) (← get).aliases).flatMap showAlias)
  let mut status := 0
  for w in ws do
    let (front, rest) := (w.drop 1).span (· != '=')
    let name := w.take 1 ++ front
    match rest with
    | _ :: value =>
      modify fun m =>
        let known := m.aliases.any (·.1 == name)
        { m with
          aliases :=
            if known then m.aliases.map fun a => if a.1 == name then (name, value) else a
            else m.aliases ++ [(name, value)] }
    | [] =>
      match (← get).aliases.lookup w with
      | some value => say (showAlias (w, value))
      | none =>
        mutter ("alias: ".toList ++ w ++ " not found\n".toList)
        status := 1
  done status

def unalias (ws : List Octets) : Step Unit := do
  let (given, ws) ← optionsOf "a" ws
  unless given.isEmpty do
    modify fun m => { m with aliases := [] }
    done 0
    return
  let mut status := 0
  for w in ws do
    if ((← get).aliases.lookup w).isSome then
      modify fun m => { m with aliases := m.aliases.filter (·.1 != w) }
    else
      mutter ("unalias: ".toList ++ w ++ " not found\n".toList)
      status := 1
  done status

end GuidedShell.Script.Step
