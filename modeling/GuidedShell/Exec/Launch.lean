import GuidedShell.Exec.Header
import GuidedShell.FileSystem.Build
import GuidedShell.World

/-! Starting programs, and what they leave behind. -/
namespace GuidedShell

/-- A program as it is started: its file, its argument words with its own name first, its variables
and its working directory. -/
structure Launch where
  program : Location
  words : List Bytes
  vars : Vars
  directory : Location

inductive Ending where
  | exited (code : Nat)
  | killed (signal : Nat)
  deriving DecidableEq

/-- How a program ended, what it wrote, and the files after it. -/
structure Completion where
  ending : Ending
  stdout : Bytes
  stderr : Bytes
  files : FileSystem

/-- What every native program does. Nothing but its launch and the files decides it. -/
abbrev Programs := Launch → FileSystem → Completion

def Ending.isSuccess (e : Ending) : Bool := e = .exited 0

/-- The exit code, or 128 and the signal. -/
def Ending.code : Ending → Nat
  | .exited code => code
  | .killed signal => 128 + signal

namespace Exec

/-- How deep scripts may be interpreted by scripts. -/
def maxDepth : Nat := 5

/-- The length, in bytes, that every argument word and every variable has to stay below. -/
def maxWord : Nat := 131072

/-- The room, in bytes, for all texts that a program is given. -/
def room : Nat := 2097152

/-- The texts are short enough, one by one and together, where some room is `taken`. A variable is
given with its name and a sign of equality, and every text with a zero. -/
def fits (taken : Nat) (words : List Bytes) (vars : List (Bytes × Bytes)) : Bool :=
  let sizes := words.map (·.length + 1) ++ vars.map fun v => v.1.length + v.2.length + 2
  sizes.all (· ≤ maxWord) && sizes.foldl (· + ·) taken ≤ room

/-- The room that the name of a program takes, and the pointers to the texts. -/
def taken (p : FilePath) (words : List Bytes) (vars : List (Bytes × Bytes)) : Nat :=
  p.length + 1 + 8 * (words.length + vars.length)

def image (fs : FileSystem) (dir : Location) (p : FilePath) : Except Fault (Location × Bytes) := do
  let loc ← fs.find dir p
  match fs.node? loc with
  | some (.file mode content) =>
    if mode &&& 0o111 != 0 && fs.permits loc .execute then .ok (loc, content)
    else .error .permissionDenied
  | _ => .error .permissionDenied

/-- The size of what stands at the front of every native program. -/
def frontSize : Nat := 64

/-- A native program can be loaded: it needs no other for that, or the one it names can do it. -/
def checkLoader (fs : FileSystem) (dir : Location) : Option FilePath → Except Fault Unit
  | none => .ok ()
  | some [] => .error .permissionDenied
  | some loader => do
    let (_, content) ← image fs dir loader
    if content.length < frontSize then .error .badRead
    else if Header.hasSegments content then .ok ()
    else .error .badLoader

/-- The native program that runs the file `p` in the end, and the words it gets. -/
def load (fs : FileSystem) (dir : Location) (vars : List (Bytes × Bytes)) (taken : Nat) :
    (depth : Nat) → FilePath → List Bytes → Except Fault (Location × List Bytes)
  | depth, p, words => do
    let (loc, content) ← image fs dir p
    if !fits taken words vars then .error .argumentsTooLong
    match Header.ofContent content with
    | .native loader? =>
      checkLoader fs dir loader?
      .ok (loc, words)
    | .cutOff => .error .badRead
    | .unknown => .error .notExecutable
    | .script [] _ => .error .permissionDenied
    | .script interpreter word =>
      match depth with
      | 0 =>
        let _ ← image fs dir interpreter
        .error .tooManyLinks
      | depth + 1 =>
        load fs dir vars taken depth interpreter (interpreter :: word.toList ++ p :: words.tail)

def scriptRunner : FilePath := Text.bytes "/bin/sh"

/-- A system whose only program runs scripts. -/
def system : FileSystem :=
  FileSystem.system.place [] scriptRunner (.file 0o755 Header.nativeFront)

/-- A text that may be a script: up to the end of its first line, its first bytes are no control
characters but for those that move the place of writing or shift. -/
def isText (content : Bytes) : Bool :=
  ((content.take 128).takeWhile (· != 0x0A)).all fun b =>
    (9 ≤ b && b ≤ 15) || b == 27 || (32 ≤ b && b != 127)

/-- Start the file `p`. If it is not executable but may be a script as far as `isScript` can tell,
it is given to the script runner. -/
def start (fs : FileSystem) (dir : Location) (vars : List (Bytes × Bytes))
    (isScript : Bytes → Bool) (p : FilePath) (words : List Bytes) :
    Except Fault (Location × List Bytes) := do
  match load fs dir vars (taken p words vars) maxDepth p words with
  | .error .notExecutable =>
    let (_, content) ← image fs dir p
    if isScript content then
      let words := scriptRunner :: p :: words.tail
      load fs dir vars (taken scriptRunner words vars) maxDepth scriptRunner words
    else .error .notExecutable
  | found => found

/-- Start the first program of that name along a search path. A file that may not be executed is
remembered, and reported if nothing better follows. -/
def startAlong (fs : FileSystem) (dir : Location) (vars : List (Bytes × Bytes))
    (isScript : Bytes → Bool) (name : FilePath) (words : List Bytes) (denied : Bool) :
    List FilePath → Except Fault (Location × List Bytes)
  | [] => .error (if denied then .permissionDenied else .notFound)
  | d :: ds =>
    match start fs dir vars isScript (FilePath.join d name) words with
    | .ok found => .ok found
    | .error .permissionDenied => startAlong fs dir vars isScript name words true ds
    | .error .notFound | .error .notDirectory =>
      startAlong fs dir vars isScript name words denied ds
    | .error fault => .error fault

/-- How to find a program by its name. -/
inductive Finder where
  /-- A path is executed as it stands. -/
  | direct
  /-- A name is looked for along a search path. -/
  | along (search : Bytes) (lenient : Bool)

/-- Where programs are looked for if no search path is set. -/
def defaultSearch : String := "/bin:/usr/bin"

/-- How a process with these variables looks for a name. -/
def Finder.ofVars (vars : Vars) : Finder :=
  .along (Text.bytes ((vars.get? "PATH").getD defaultSearch)) false

/-- Everything that is fixed when a program is started from the directory `from?`, or from the
working directory. -/
def prepare (w : World) (finder : Finder) (program : FilePath) (args : List Bytes) (vars : Vars)
    (from? : Option FilePath) : Except Fault Launch := do
  let pairs := vars.map fun v => (Text.bytes v.1, Text.bytes v.2)
  let texts := pairs.flatMap fun v => [v.1, v.2]
  if (program :: args ++ from?.toList ++ texts).any (·.contains 0) then
    .error .zeroInArguments
  let dir ← match from? with
    | some p => w.files.enter w.here p
    | none => .ok w.here
  let words := program :: args
  let (loc, words) ← match finder with
    | .direct => start w.files dir pairs (fun _ => false) program words
    | .along search lenient =>
      let folders := FilePath.searchList search
      startAlong w.files dir pairs (fun _ => lenient) program words false folders
  .ok { program := loc, words, vars, directory := dir }

end Exec

end GuidedShell
