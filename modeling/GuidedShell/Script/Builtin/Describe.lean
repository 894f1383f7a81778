import GuidedShell.Script.Builtin.Declare
import GuidedShell.Script.Perform
import GuidedShell.Script.Redirection
import GuidedShell.Script.Words

/-! Telling what the names of commands mean. -/
namespace GuidedShell.Script.Step

/-- The path of what has been found in one of the directories of a search path. -/
def foundAt (search name : Octets) (n : Nat) : Octets :=
  match (Machine.folders search)[n]? with
  | some d => Machine.inDirectory d.directory name
  | none => name

variable (go : Carrier)

def readFunction (name p : Octets) : Step Command := do
  if let .ok (number, m) := (← get).openFile .input p then
    set m
    readBeside go .plain (.ofStream number)
  match (← get).functions.lookup name with
  | some body => return body
  | none => fail (name ++ " not defined in ".toList ++ p)

/-- What a name means along a search path. -/
def meaningAlong (search name : Octets) (functions : Bool) : Step Meaning := do
  let folders := Machine.folders search
  match (← get).search name functions .notFound 0 folders with
  | .error f => return .unknown f
  | .ok n =>
    if (folders[n]?).any (·.purpose = .functions) then
      return .function (← readFunction go name (foundAt search name n))
    return .program n

/-- Look for a name along the search path of the script, and note where its program is. -/
def locate (functions : Bool) (name : Octets) : Step Meaning := do
  let m ← get
  match m.found.find? (·.1 == name) with
  | some (_, n, false) => return .program n
  | _ =>
    let meaning ← meaningAlong go (m.value "PATH") name functions
    modify fun m =>
      match meaning with
      | .program n => m.noteFound name n
      | _ => { m with found := m.found.filter (·.1 != name) }
    return meaning

/-- What is said of a name: something for a reader, or the words to write in its place. -/
structure Account where
  told : Octets
  brief : Octets

/-- What a name means, looked for along some search path or that of the script. -/
def accountOf (search? : Option Octets) (name : Octets) : Step (Option Account) := do
  let m ← get
  let plain (told : String) : Option Account := some ⟨told.toList, name⟩
  let program (front search : Octets) (n : Nat) : Option Account :=
    let p := foundAt search name n
    some ⟨front ++ ' ' :: p, p⟩
  if (Token.reserved? name).isSome then return plain " is a shell keyword"
  if let some text := m.aliases.lookup name then
    let a := showAlias (name, text)
    return some ⟨" is an alias for ".toList ++ text, "alias ".toList ++ a.dropLast⟩
  if (m.functions.lookup name).isSome then return plain " is a shell function"
  if search?.isNone then
    if let some (_, n, _) := m.found.find? (·.1 == name) then
      return program " is a tracked alias for".toList (m.value "PATH") n
  if let some b := Machine.builtin? name then
    return plain (if isSpecial b then " is a special shell builtin" else " is a shell builtin")
  if name.contains '/' then
    return if (m.stat? name).isSome then some ⟨" is ".toList ++ name, name⟩ else none
  let meaning ← match search? with
    | some search => meaningAlong go search name true
    | none => locate go true name
  match meaning with
  | .program n => return program " is".toList (search?.getD (m.value "PATH")) n
  | .function _ => return plain " is a shell function"
  | _ => return none

def tell (ws : List Octets) : Step Unit := do
  let mut status := 0
  for w in ws do
    match ← accountOf go none w with
    | some a => say (w ++ a.told ++ ['\n'])
    | none =>
      say (w ++ ": not found\n".toList)
      status := 127
  done status

def tellOne (ws : List Octets) : Step Unit := do
  let (given, ws) ← optionsOf "pvV" ws
  let search? := if given.any (·.1 == 'p') then some Machine.defaultSearch else none
  match (given.map (·.1)).filter (· != 'p'), ws with
  | way :: ways, w :: _ =>
    let verbose := (way :: ways).contains 'V'
    match ← accountOf go search? w with
    | some a => say ((if verbose then w ++ a.told else a.brief) ++ ['\n'])
    | none =>
      if verbose then say (w ++ ": not found\n".toList)
      done 127
      return
    done 0
  | _, _ => done 0

/-- Show where programs have been found, forget it, or look for some again. -/
def remember (ws : List Octets) : Step Unit := do
  let (given, ws) ← optionsOf "r" ws
  let m ← get
  if !given.isEmpty then set { m with found := [] }
  else if ws.isEmpty then
    for (name, n, isOld) in Machine.inTableOrder 31 (·.1) m.found do
      say (foundAt (m.value "PATH") name n ++ if isOld then ['*', '\n'] else ['\n'])
  else
    let mut status := 0
    for w in ws do
      modify fun m => { m with found := m.found.filter (·.1 != w) }
      let m ← get
      unless (m.functions.lookup w).isSome || (Machine.builtin? w).isSome || w.contains '/' do
        if let .unknown f ← locate go true w then
          report (w ++ ": ".toList ++ complaint f "not found")
          status := 1
    done status
    return
  done 0

end GuidedShell.Script.Step
