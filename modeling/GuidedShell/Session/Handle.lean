import GuidedShell.Session.Basic

/-! How a session reacts to events. -/
namespace GuidedShell.Session

open Surface

/-- Put the list away if it shows. -/
def hideSuggestions (s : Session) : Session × List Call :=
  if s.suggestions.isActive then ({ s with suggestions := .hidden }, [.hideSuggestions])
  else (s, [])

def showSuggestions (s : Session) : Call :=
  .showSuggestions s.suggestions.shown s.suggestions.selected

def changeText (s : Session) (text : String) : Session × List Call :=
  let s := { s with suggestions := s.suggestions.update text s.known }
  (s, [if s.suggestions.isActive then s.showSuggestions else .hideSuggestions])

def moveSelection (s : Session) (m : Suggestions.Move) : Session × List Call :=
  let s := { s with suggestions := s.suggestions.move m }
  (s, [s.showSuggestions])

/-- Put the list away, move through the history, and show the entry it has come to. -/
def browse (s : Session) (move : History → History) : Session × List Call :=
  let (s, hide) := s.hideSuggestions
  let s := { s with history := move s.history }
  (s, hide ++ [.setInput s.history.current false])

def navigate (s : Session) (key : Key) : Session × List Call :=
  match key, s.suggestions.isActive with
  | .up, true => s.moveSelection .backward
  | .down, true | .tab, true => s.moveSelection .forward
  | .tab, false => (s, [])
  | .up, false | .historyBack, _ => s.browse .back
  | .down, false | .historyForward, _ => s.browse .forward
  | .escape, _ => s.hideSuggestions

/-- Try to save the history. -/
def save (s : Session) : Session × Option Failure :=
  let s := { s with saves := s.saves ++ [s.history.entries] }
  match s.history.save s.world.files s.world.here with
  | .ok files => ({ s with world := { s.world with files } }, none)
  | .error failure => (s, some failure)

/-- What is said about a save that failed. -/
def complaint (failure : Failure) : Call :=
  .print ("Error saving history: " ++ failure.message ++ "\n")

/-- Save the history before the session ends. A save that fails is reported, and the session ends
all the same. -/
def shutdown (s : Session) : Session × List Call :=
  let (s, failure?) := s.save
  (s, .print "Saving history... Exiting AuraShell...\n" :: (failure?.map complaint).toList)

/-- Offer what may have been meant by a name that stands for nothing. -/
def offerCorrections (s : Session) (name : String) (args : List String) : Session × List Call :=
  match Correction.offer? name args s.known with
  | some menu => ({ s with mode := .awaitingCorrection menu }, [.print menu.menu])
  | none => (s, [.print ((Failure.commandNotFound name).message ++ "\n")])

def report (s : Session) (name : String) (args : List String) (outcome : Except Failure Outcome) :
    Session × List Call :=
  match outcome with
  | .ok (.finished _) => (s, [])
  | .ok .clearScreen => (s, [.clear])
  | .ok .unresolved => s.offerCorrections name args
  | .error failure => (s, [.print ("Error: " ++ failure.message ++ "\n")])

def run (programs : Programs) (s : Session) (name : String) (args : List String) : Reaction :=
  let effect := Command.dispatch programs s.setting name args
  let s := { s with environment := effect.environment, world := effect.world }
  let written :=
    if effect.output.isEmpty then [] else [Call.print (Text.ofBytesLossy effect.output)]
  let (s, told) := s.report name args effect.outcome
  if s.environment.shouldExit then
    let (s, farewell) := s.shutdown
    ⟨s, .exit, written ++ told ++ farewell⟩
  else ⟨s, .goOn, written ++ told⟩

/-- Take a line as the answer to a menu. The session is back to commands whatever it says. -/
def answer (s : Session) (menu : Correction) (line : String) : Reaction :=
  let s := { s with mode := .normal }
  match menu.resolve line with
  | .ok text => ⟨s, .goOn, [.setInput text true]⟩
  | .error failure => ⟨s, .goOn, [.print (failure.message ++ "\n")]⟩

/-- Keep a line in the history, unless it is blank. -/
def record (s : Session) (line : String) : Session :=
  { s with history := if line.isEmpty then s.history.resetCursor else s.history.append line }

/-- Act on a trimmed line. -/
def obey (programs : Programs) (s : Session) (line : String) : Reaction :=
  match s.mode with
  | .awaitingCorrection menu => s.answer menu line
  | .normal =>
    match Text.words line with
    | [] => ⟨s, .goOn, []⟩
    | name :: args => s.run programs name args

/-- Enter accepts the highlighted suggestion, if there is one. Otherwise the line is recorded and
obeyed. -/
def submit (programs : Programs) (s : Session) (line : String) : Reaction :=
  match s.suggestions.confirmed? with
  | some text =>
    ⟨{ s with suggestions := .hidden }, .goOn, [.hideSuggestions, .setInput text true]⟩
  | none =>
    let (s, hide) := s.hideSuggestions
    let line := Text.trim line
    ((s.record line).obey programs line).after hide

def handle (programs : Programs) (s : Session) : Event → Reaction
  | .textChanged text => let (s, calls) := s.changeText text; ⟨s, .goOn, calls⟩
  | .submitLine line => s.submit programs line
  | .navigateKey key => let (s, calls) := s.navigate key; ⟨s, .goOn, calls⟩

end GuidedShell.Session
