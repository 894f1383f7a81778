import GuidedShell.Session.Handle
import GuidedShell.Terminal.Display

/-! A session behind a line editor. -/
namespace GuidedShell.Terminal

structure Editor where
  session : Session
  display : Display
  /-- The text that the session has seen last. Only another text is a change. -/
  lastText : String

namespace Editor

def handle (programs : Programs) (e : Editor) (event : Event) : Editor × Flow :=
  let r := e.session.handle programs event
  ({ e with session := r.session, display := e.display.applyAll r.calls }, r.flow)

/-- Let the session see the text of the input line. -/
def look (programs : Programs) (e : Editor) (line : String) : Editor :=
  if e.lastText = line then e
  else ({ e with lastText := line }.handle programs (.textChanged line)).1

/-- The hint to draw when the cursor stands before byte `pos` of the line: none before its end. -/
def hintAt? (e : Editor) (line : String) (pos : Nat) : Option String :=
  if pos < (Text.bytes line).length then none else e.display.hint?

/-- Hand a key to the session, and take the text that it has put into the input line. -/
def press (programs : Programs) (e : Editor) (key : Key) : Editor × Option String :=
  let e := (e.handle programs (.navigateKey key)).1
  ({ e with display := { e.display with pendingInput := none } }, e.display.pendingInput)

/-- Press a key in a line. The text that comes into the line that way is no change of the user's. -/
def navigate (programs : Programs) (e : Editor) (key : Key) : Editor × Option String :=
  let (e, text?) := e.press programs key
  ({ e with lastText := text?.getD e.lastText }, text?)

/-- Get ready for a line, which begins with the text that the session has left for it. -/
def ready (e : Editor) : Editor × String :=
  let text := e.display.pendingInput.getD ""
  ({ e with display := { e.display.finishLine with pendingInput := none }, lastText := text }, text)

/-- What happens at the terminal: a line begins, its text is looked at, a key is pressed in it, and it
is entered or given up for the next one. -/
inductive Action where
  | ready
  | look (line : String)
  | navigate (key : Key)
  | enter (line : String)

def act (programs : Programs) (e : Editor) : Action → Editor
  | .ready => e.ready.1
  | .look line => e.look programs line
  | .navigate key => (e.navigate programs key).1
  | .enter line => (e.handle programs (.submitLine line)).1

/-- A session that comes to a terminal where nothing has been written. -/
def start (s : Session) : Editor := ⟨s, .empty, ""⟩

def prompt (s : Session) : String :=
  match s.mode with
  | .awaitingCorrection _ => "? "
  | .normal => FilePath.display s.environment.currentDir ++ "$ "

end Editor

end GuidedShell.Terminal
