import GuidedShell.Fault
import GuidedShell.FilePath.Basic

/-! What can go wrong in a session. Nothing of it ends the session. -/
namespace GuidedShell

inductive Failure where
  | commandNotFound (name : String)
  /-- The reply to a menu of corrections was not a number. -/
  | correctionAborted
  /-- The reply to a menu of corrections was a number that the menu does not have. -/
  | invalidChoice (choice : String) (max : Nat)
  | homeUnknown
  | directoryNotFound (target : FilePath)
  | directoryRefused (fault : Fault)
  | history (file : FilePath) (fault : Fault)
  | spawn (name : String) (fault : Fault)

def Failure.message : Failure → String
  | .commandNotFound name => name ++ ": command not found"
  | .correctionAborted => "--- Aborted ---"
  | .invalidChoice .. => "--- Invalid choice. Aborted. ---"
  | .homeUnknown => "cd error: home directory is not known"
  | .directoryNotFound target => "cd: '" ++ target.display ++ "': No such file or directory"
  | .directoryRefused fault => "cd error: " ++ fault.message
  | .history file fault => "history file " ++ file.display ++ ": " ++ fault.message
  | .spawn name fault => "failed to run " ++ name ++ ": " ++ fault.message

end GuidedShell
