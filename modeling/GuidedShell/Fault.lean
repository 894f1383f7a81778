import GuidedShell.Text

/-! Why the operating system refuses something. -/
namespace GuidedShell

inductive Fault where
  | notFound
  | permissionDenied
  | alreadyThere
  | notDirectory
  | isDirectory
  | nameTooLong
  | tooManyLinks
  | argumentsTooLong
  | noDevice
  | noSpace
  /-- What is read has no end. -/
  | outOfMemory
  /-- A file that may be executed is no program. -/
  | notExecutable
  /-- Less could be read than there has to be. -/
  | badRead
  /-- What is to load a program is no program of that kind. -/
  | badLoader
  /-- A zero byte in a file name. -/
  | zeroInName
  /-- A zero byte in what a program would be started with. -/
  | zeroInArguments
  deriving DecidableEq

def Fault.describe : Fault → String
  | .notFound => "No such file or directory"
  | .permissionDenied => "Permission denied"
  | .alreadyThere => "File exists"
  | .notDirectory => "Not a directory"
  | .isDirectory => "Is a directory"
  | .nameTooLong => "File name too long"
  | .tooManyLinks => "Too many levels of symbolic links"
  | .argumentsTooLong => "Argument list too long"
  | .noDevice => "No such device or address"
  | .noSpace => "No space left on device"
  | .outOfMemory => "out of memory"
  | .notExecutable => "Exec format error"
  | .badRead => "Input/output error"
  | .badLoader => "Accessing a corrupted shared library"
  | .zeroInName => "file name contained an unexpected NUL byte"
  | .zeroInArguments => "nul byte found in provided data"

/-- The number by which the system knows the fault, if it is one of the system's own. -/
def Fault.number? : Fault → Option Nat
  | .notFound => some 2
  | .badRead => some 5
  | .noDevice => some 6
  | .argumentsTooLong => some 7
  | .notExecutable => some 8
  | .permissionDenied => some 13
  | .alreadyThere => some 17
  | .notDirectory => some 20
  | .isDirectory => some 21
  | .noSpace => some 28
  | .nameTooLong => some 36
  | .tooManyLinks => some 40
  | .badLoader => some 80
  | .outOfMemory | .zeroInName | .zeroInArguments => none

def Fault.message (f : Fault) : String :=
  match f.number? with
  | some n => f.describe ++ " (os error " ++ Text.decimal n ++ ")"
  | none => f.describe

end GuidedShell
