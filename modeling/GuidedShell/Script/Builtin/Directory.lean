import GuidedShell.Script.Builtin.Options

/-! The working directory of a script, and the mask for new files. -/
namespace GuidedShell.Script

namespace Machine

/-- The directory as the script came into it, after one more step. -/
def logicalAfter (m : Machine) (dir : Octets) : Octets :=
  let (front, start) : Octets × List Octets :=
    if dir.head? == some '/' then
      (if "//".toList.isPrefixOf dir && dir[2]? != some '/' then "//".toList else ['/'], [])
    else
      let twice := "//".toList.isPrefixOf m.logical
      (if twice then "//".toList else ['/'], parts m.logical)
  let steps := (parts dir).foldl (fun held p =>
    if p = ".".toList then held else if p = "..".toList then held.dropLast else held ++ [p]) start
  front ++ Octets.joined ['/'] steps
where
  parts (cs : Octets) : List Octets := (pieces (· == '/') cs).filter (!·.isEmpty)

end Machine

namespace Step

/-- Whether the last of `-L` and `-P` is the second. -/
def isPhysical (given : List Given) : Bool := (given.getLast?.map (·.1)) == some 'P'

def physical : Step Octets := do
  let m ← get
  if m.here.any (·.contains FilePath.slash) then
    report "getcwd() failed: No such file or directory".toList
    return []
  return Octets.ofBytes m.here.path

def noteDirectory (dir : Octets) (keepsOld : Bool) : Step Unit := do
  let before := (← get).logical
  if keepsOld then assign "OLDPWD".toList (some before) true false
  modify fun m => { m with logical := dir }
  assign "PWD".toList (some dir) true false

/-- Enter a directory, if that is possible. -/
def enter (dir : Octets) (isPhysical : Bool) : Step Bool := do
  let m ← get
  let isNowhere := m.logical.isEmpty && dir.head? != some '/'
  let named := if isNowhere then none else some (m.logicalAfter dir)
  let target := if isPhysical then dir else named.getD dir
  match m.files.enter m.here (Machine.path target) with
  | .error _ => return false
  | .ok loc =>
    modify fun m => { m with here := loc }
    let dir ← if isPhysical then physical else match named with
      | some d => pure d
      | none => physical
    noteDirectory dir true
    modify fun m => { m with found := m.found.map fun (name, n, _) => (name, n, true) }
    return true

/-- The first directory of a list of directories that has one of some name. -/
def inList (m : Machine) (name : Octets) : List Octets → Option (Octets × Bool)
  | [] => none
  | d :: ds =>
    let p := if d.isEmpty then name else d ++ '/' :: name
    if m.stat? p == some .directory then some (p, !d.isEmpty) else inList m name ds

def changeDirectory (ws : List Octets) : Step Unit := do
  let (given, ws) ← optionsOf "LP" ws
  let m ← get
  let (dest, back) : Octets × Bool := match ws with
    | [] => (m.value "HOME", false)
    | ['-'] :: _ => (m.value "OLDPWD", true)
    | w :: _ => (w, false)
  let isFixed := dest.head? == some '/' ||
    [".".toList, "..".toList].contains (dest.takeWhile (· != '/'))
  let search := (m.value? "CDPATH".toList).map (pieces (· == ':'))
  let short := if dest.isEmpty then ['.'] else dest
  let (target, shows) := match if isFixed then none else inList m short (search.getD []) with
    | some (p, shows) => (p, back || shows)
    | none => (dest, back)
  if ← enter target (isPhysical given) then
    if shows then say ((← get).logical ++ ['\n'])
    done 0
  else fail ("can't cd to ".toList ++ dest)

def showDirectory (ws : List Octets) : Step Unit := do
  let (given, _) ← optionsOf "LP" ws
  let dir ← if isPhysical given then physical else pure (← get).logical
  say (dir ++ ['\n'])
  done 0

/-- The mask that letters like `u=rwx,go-w` make of a mask, both taken as what is allowed. -/
def symbolicMask (before : Nat) :
    (fuel : Nat) → (positions allowed : Nat) → Octets → Option Nat
  | 0, _, _, _ => none
  | _ + 1, _, allowed, [] => some allowed
  | n + 1, positions, allowed, cs =>
    let (who, cs) := cs.span fun c => ['a', 'u', 'g', 'o'].contains c
    let positions := who.foldl (fun p c => p ||| place c) positions
    let positions := if positions = 0 then 0o111 else positions
    match cs with
    | op :: cs =>
      if ! (['=', '+', '-'].contains op) then none
      else
        let (what, cs) := cs.span fun c => ['r', 'w', 'x', 'u', 'g', 'o', 'X', 's'].contains c
        let bits := (what.foldl (fun v c => v ||| rights c) 0 &&& 7) * positions
        let allowed := match op with
          | '-' => allowed &&& (0o777 ^^^ (bits &&& 0o777))
          | '=' => bits ||| (allowed &&& (0o777 ^^^ ((positions * 7) &&& 0o777)))
          | _ => allowed ||| bits
        match cs with
        | ',' :: cs => symbolicMask before n 0 allowed cs
        | [] => some allowed
        | c :: _ => if ['=', '+', '-'].contains c then symbolicMask before n positions allowed cs
          else none
    | [] => none
where
  place : Char → Nat
    | 'a' => 0o111
    | 'u' => 0o100
    | 'g' => 0o010
    | _ => 0o001
  rights : Char → Nat
    | 'r' => 4
    | 'w' => 2
    | 'x' => 1
    | 'u' => before >>> 6
    | 'g' => before >>> 3
    | 'o' => before
    | 'X' => if before &&& 0o111 != 0 then 1 else 0
    | _ => 0

def showMask (mask : Nat) : Octets :=
  let shown (letter : Char) (shift : Nat) : Octets :=
    let bits := (mask >>> shift) &&& 7
    letter :: '=' :: (if bits &&& 4 = 0 then ['r'] else []) ++
      (if bits &&& 2 = 0 then ['w'] else []) ++ (if bits &&& 1 = 0 then ['x'] else [])
  Octets.joined [','] [shown 'u' 6, shown 'g' 3, shown 'o' 0]

def changeMask (ws : List Octets) : Step Unit := do
  let (given, ws) ← optionsOf "S" ws
  let mask := (← get).mask
  match ws with
  | [] =>
    say ((if given.isEmpty then padded 4 8 mask else showMask mask) ++ ['\n'])
  | w :: _ =>
    if w.head?.any Char.isDigit then
      unless w.all (Numeral.isDigit 8) do fail ("Illegal number: ".toList ++ w)
      modify fun m => { m with mask := Numeral.ofDigits 8 w % 0o1000 }
    else
      let allowed := 0o777 ^^^ mask
      match symbolicMask allowed (w.length + 1) 0 allowed w with
      | some a => modify fun m => { m with mask := 0o777 ^^^ (a &&& 0o777) }
      | none => fail ("Illegal mode: ".toList ++ w)
  done 0

end Step

end GuidedShell.Script
