import GuidedShell.Console.Run
import GuidedShell.Proofs.Session.Exit
import GuidedShell.Proofs.Session.Reload

/-! What a session saves when it could not read its history at the start. -/
namespace GuidedShell.Session

variable {programs : Programs} {s last : Session} {events : List Event} {file : FilePath}
  {lines : List String} {files : FileSystem}

/-- The session goes on through these events and then ends. `last` is what it is just before that,
`lines` is what the history has got by then, and `files` is what is left when the history has been
saved, or could not be. -/
inductive Ends (programs : Programs) (s : Session) (events : List Event) :
    (last : Session) → (lines : List String) → (files : FileSystem) → Prop
  /-- Its input has come to an end. -/
  | input (going : ∀ t ∈ s.steps programs events, t.reaction.flow = .goOn) :
    Ends programs s events (s.after programs events) (s.logged programs events)
      (s.after programs events).shutdown.1.world.files
  /-- One more event ends it. -/
  | line {e} (going : ∀ t ∈ s.steps programs events, t.reaction.flow = .goOn)
    (closed : ((s.after programs events).handle programs e).flow = .exit) :
    Ends programs s events (s.after programs events) (s.logged programs (events ++ [e]))
      ((s.after programs events).handle programs e).session.world.files

namespace Ends

theorem going (h : s.Ends programs events last lines files) :
    ∀ t ∈ s.steps programs events, t.reaction.flow = .goOn := by
  cases h <;> assumption

end Ends

end GuidedShell.Session
