import GuidedShell.Proofs.Exec.Start

/-! When a start fails because something cannot be found: the directory, the program, or a program
that is needed to run it. -/
namespace GuidedShell

namespace Exec

variable {fs : FileSystem} {dir loc : Location} {vars : List (Bytes × Bytes)} {room depth : Nat}
  {isScript : Bytes → Bool} {p name : FilePath} {words args : List Bytes} {content : Bytes}

/-- What is done about the program that a script's header names. -/
def follow (fs : FileSystem) (dir : Location) (vars : List (Bytes × Bytes)) (room : Nat) :
    (depth : Nat) → FilePath → List Bytes → Except Fault (Location × List Bytes)
  | 0, interpreter, _ => do
    let _ ← image fs dir interpreter
    .error .tooManyLinks
  | depth + 1, interpreter, words => load fs dir vars room depth interpreter words

end Exec
end GuidedShell
