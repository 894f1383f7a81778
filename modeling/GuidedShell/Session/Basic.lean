import GuidedShell.Command.Dispatch
import GuidedShell.CommandIndex
import GuidedShell.Correction
import GuidedShell.History.File
import GuidedShell.Suggestions
import GuidedShell.Surface.Call

/-! The state of an interactive session, and the events that change it. -/
namespace GuidedShell

/-- Keys that move through the suggestions or the history. -/
inductive Key where
  /-- The previous suggestion while the list shows, otherwise older history. -/
  | up
  /-- The next suggestion while the list shows, otherwise newer history. -/
  | down
  | historyBack
  | historyForward
  /-- The next suggestion. -/
  | tab
  /-- Put the list away. -/
  | escape
  deriving DecidableEq

inductive Event where
  /-- The input line now reads like this because the user typed. -/
  | textChanged (text : String)
  /-- The user pressed Enter on this line. -/
  | submitLine (line : String)
  | navigateKey (key : Key)

inductive Flow where
  | goOn
  | exit
  deriving DecidableEq

/-- What the next submitted line means. -/
inductive Mode where
  /-- The line is a command. -/
  | normal
  /-- The line answers the menu that was printed last. -/
  | awaitingCorrection (menu : Correction)

structure Session where
  environment : Environment
  index : CommandIndex
  history : History
  suggestions : Suggestions
  mode : Mode
  world : World
  /-- What was to be saved of the history, once for each attempt, the first one first. -/
  saves : List (List String) := []

namespace Session

def new (world : World) (environment : Environment) (index : CommandIndex) (history : History) :
    Session :=
  { environment, index, history, suggestions := .hidden, mode := .normal, world }

/-- The names that suggestions and corrections are drawn from. -/
def known (s : Session) : List String := s.index.known Command.Builtin.names

def setting (s : Session) : Command.Setting := ⟨s.environment, s.world, s.history⟩

/-- What a session makes of an event: its next state, whether it goes on, and what the surface is
told, in order. -/
structure Reaction where
  session : Session
  flow : Flow
  calls : List Surface.Call

/-- The same reaction after some earlier calls. -/
def Reaction.after (calls : List Surface.Call) (r : Reaction) : Reaction :=
  { r with calls := calls ++ r.calls }

end Session

end GuidedShell
