import GuidedShell.Script.Step
import GuidedShell.Script.Token

/-! The names of commands, and what they mean. -/
namespace GuidedShell.Script

def builtins : List String :=
  [".", ":", "[", "alias", "bg", "break", "cd", "chdir", "command", "continue", "echo", "eval",
    "exec", "exit", "export", "false", "fg", "getopts", "hash", "jobs", "kill", "local", "printf",
    "pwd", "read", "readonly", "return", "set", "shift", "test", "times", "trap", "true", "type",
    "ulimit", "umask", "unalias", "unset", "wait"]

/-- The commands whose errors end the script, and whose assignments last. -/
def isSpecial (name : String) : Bool := name == "local" || specialCommands.contains name

/-- The commands among them whose words may be assignments. -/
def assigns (name : String) : Bool := ["alias", "export", "local", "readonly"].contains name

/-- What the name of a command means. -/
inductive Meaning where
  | function (body : Command)
  | builtin (name : String)
  /-- A program, and how many directories of the search path come before it. -/
  | program (skipped : Nat)
  | unknown (fault : Fault)

namespace Machine

def builtin? (name : Octets) : Option String :=
  builtins.find? fun b => b.toList == name

/-- The path of a program in a directory of a search path. -/
def inDirectory (dir name : Octets) : Octets :=
  if dir.isEmpty then name else dir ++ '/' :: name

/-- What a directory of a search path is there for. -/
inductive Purpose where
  | programs
  /-- Each file defines the function that it is named for. -/
  | functions
  /-- It stands for the commands of the language, and nothing is looked for in it. -/
  | language
  deriving DecidableEq

/-- A directory of a search path. -/
structure Folder where
  directory : Octets
  purpose : Purpose

/-- The purpose that a text begins with, and what follows it. -/
def purpose? (cs : Octets) : Option (Purpose × Octets) :=
  [("builtin", Purpose.language), ("func", .functions)].findSome? fun (name, purpose) =>
    if name.toList.isPrefixOf cs then
      let rest := cs.drop name.length
      some (purpose, if rest.head? == some '%' then rest.drop 1 else rest)
    else none

/-- A part of a search path. The purpose stands before or behind the directory, and a percent sign
between them. -/
def folder (part : Octets) : Folder :=
  match if part.head? == some '%' then purpose? (part.drop 1) else none with
  | some (purpose, directory) => ⟨directory, purpose⟩
  | none =>
    let (front, back) := part.span (· != '%')
    match purpose? (back.drop 1) with
    | some (purpose, _) => ⟨front, purpose⟩
    | none => ⟨part, .programs⟩

def folders (search : Octets) : List Folder := (pieces (· == ':') search).map folder

/-- Where something of some name is first along a search path, or why it is nowhere. Files that
define functions count only if `functions` says so. -/
def search (m : Machine) (name : Octets) (functions : Bool) (fault : Fault) (n : Nat) :
    List Folder → Except Fault Nat
  | [] => .error fault
  | d :: ds =>
    if d.purpose = .language || (d.purpose = .functions && !functions) then
      m.search name functions fault (n + 1) ds
    else match m.files.stat m.here (path (inDirectory d.directory name)) with
      | .ok node =>
        let fits := if d.purpose = .functions then node matches .file .. else node.isProgram
        if fits then .ok n else m.search name functions .permissionDenied (n + 1) ds
      | .error f =>
        let fault := if f = .notFound || f = .notDirectory then fault else f
        m.search name functions fault (n + 1) ds

/-- Note where a program has been found. -/
def noteFound (m : Machine) (name : Octets) (n : Nat) : Machine :=
  if m.found.any (·.1 == name) then
    { m with found := m.found.map fun e => if e.1 == name then (name, n, false) else e }
  else { m with found := m.found ++ [(name, n, false)] }

/-- The order in which a table of names is gone through. -/
def bucket (size : Nat) (name : Octets) : Nat :=
  let first := (name.headD zero).toNat * 16
  (name.foldl (fun n c => n + c.toNat) first) % 32768 % size

/-- Entries in the order of a table that has `size` places. -/
def inTableOrder {α : Type} (size : Nat) (key : α → Octets) (entries : List α) : List α :=
  (List.range size).flatMap fun n => entries.filter fun e => bucket size (key e) == n

end Machine

end GuidedShell.Script
