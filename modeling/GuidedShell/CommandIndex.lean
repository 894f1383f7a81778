import GuidedShell.Environment

/-! The names of the programs that a search path offers. -/
namespace GuidedShell

/-- Names in lower case and ascending order, each of them once. -/
structure CommandIndex where
  names : List String
  deriving DecidableEq

namespace CommandIndex

def empty : CommandIndex := ⟨[]⟩

/-- Put a name where it belongs in an ascending list, unless it is there. -/
def insertName (n : String) : List String → List String
  | [] => [n]
  | m :: ms => if n < m then n :: m :: ms else if n = m then m :: ms else m :: insertName n ms

theorem mem_insertName {x n : String} {names : List String} :
    x ∈ insertName n names ↔ x = n ∨ x ∈ names := by
  induction names with
  | nil => simp [insertName]
  | cons m ms ih =>
    simp only [insertName]
    split
    · simp
    · split
      · rename_i h
        simp [h]
      · simp only [List.mem_cons, ih]
        exact or_left_comm

def insertAll (names found : List String) : List String :=
  found.foldl (fun ns n => insertName n ns) names

def ofNames (names : List String) : CommandIndex := ⟨insertAll [] (names.map Text.lower)⟩

/-- The command that a file stands for when programs are told by an execute bit: a name without a
dot stands for itself. -/
def plainCommand? (name : String) (executable : Bool) : Option String :=
  if name.toList.contains '.' || !executable then none else some (Text.lower name)

/-- The command that a file stands for when programs are told by their extension: the name without
the extension. -/
def extendedCommand? (name : String) (extensions : List String) : Option String :=
  if extensions.any fun e => Text.endsWith (Text.lower name) (Text.lower e) then
    ((Text.ofBytes? (FilePath.stem (Text.bytes name))).filter (!·.isEmpty)).map Text.lower
  else none

def isProgram (w : World) (p : FilePath) : Bool :=
  match w.files.stat w.here p with
  | .ok node => node.isProgram
  | .error _ => false

/-- The command that the entry `n` of a directory stands for. -/
def command? (w : World) (extensions : List String) (dir : FilePath) (n : FileName) :
    Option String := do
  let name ← Text.ofBytes? n
  if extensions.isEmpty then plainCommand? name (isProgram w (FilePath.join dir n))
  else extendedCommand? name extensions

/-- The commands of one directory of the search path. One that cannot be listed has none. -/
def commandsIn (w : World) (extensions : List String) (dir : FilePath) : List String :=
  match w.files.list w.here dir with
  | .ok entries => entries.filterMap (command? w extensions dir)
  | .error _ => []

/-- Every command of a search path. Without extensions, programs are told by their execute bits. -/
def scan (w : World) (search : Bytes) (extensions : List String) : CommandIndex :=
  ⟨insertAll [] ((FilePath.searchList search).flatMap (commandsIn w extensions))⟩

def build (w : World) (env : Environment) : CommandIndex :=
  match env.var? w "PATH" with
  | some search => scan w (Text.bytes search) []
  | none => empty

/-- Whether a name is in an ascending list. The list is halved until one name of it is left. -/
def bisect (n : String) (names : List String) : Bool :=
  if _ : names.length < 2 then names.head? == some n
  else
    let middle := names.length / 2
    if n < names[middle] then bisect n (names.take middle) else bisect n (names.drop middle)
termination_by names.length
decreasing_by all_goals simp; omega

/-- Membership, upper and lower case being alike. -/
def holds (index : CommandIndex) (name : String) : Bool := bisect (Text.lower name) index.names

/-- All names that a session knows: first the given ones, then the others of the index. -/
def known (index : CommandIndex) (builtins : List String) : List String :=
  builtins ++ index.names.filter (!builtins.contains ·)

end CommandIndex

end GuidedShell
