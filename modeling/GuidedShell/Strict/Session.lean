import GuidedShell.Command.Factory
import GuidedShell.Session.Handle
import GuidedShell.Strict.Parts

/-! A session in strict arithmetic, with any list of commands. An event for which some step of the
arithmetic has no result has none itself. -/
namespace GuidedShell.Strict

open Session Surface

variable (commands : List Command.Factory)

/-- The names that suggestions and corrections are drawn from. -/
def known (s : Session) : List String := s.index.known (Command.Factory.builtins commands)

def changeText (s : Session) (text : String) : Session × List Call :=
  let s := { s with suggestions := s.suggestions.update text (known commands s) }
  (s, [if s.suggestions.isActive then s.showSuggestions else .hideSuggestions])

def moveSelection? (s : Session) (m : Suggestions.Move) : Option (Session × List Call) := do
  let s := { s with suggestions := ← move? s.suggestions m }
  return (s, [s.showSuggestions])

def navigate? (s : Session) (key : Key) : Option (Session × List Call) :=
  match key, s.suggestions.isActive with
  | .up, true => moveSelection? s .backward
  | .down, true | .tab, true => moveSelection? s .forward
  | _, _ => some (s.navigate key)

def offerCorrections? (s : Session) (name : String) (args : List String) :
    Option (Session × List Call) := do
  match ← offer? name args (known commands s) with
  | some menu => return ({ s with mode := .awaitingCorrection menu }, [.print menu.menu])
  | none => return (s, [.print ((Failure.commandNotFound name).message ++ "\n")])

def report? (s : Session) (name : String) (args : List String)
    (outcome : Except Failure Outcome) : Option (Session × List Call) :=
  match outcome with
  | .ok .unresolved => offerCorrections? commands s name args
  | _ => some (s.report name args outcome)

def run? (s : Session) (name : String) (args : List String) : Option Reaction := do
  let effect := Command.Factory.dispatch commands s.index s.setting name args
  let s := { s with environment := effect.environment, world := effect.world }
  let written :=
    if effect.output.isEmpty then [] else [Call.print (Text.ofBytesLossy effect.output)]
  let (s, told) ← report? commands s name args effect.outcome
  if s.environment.shouldExit then
    let (s, farewell) := s.shutdown
    return ⟨s, .exit, written ++ told ++ farewell⟩
  else return ⟨s, .goOn, written ++ told⟩

def answer? (s : Session) (menu : Correction) (line : String) : Option Reaction := do
  let s := { s with mode := .normal }
  match ← resolve? menu line with
  | .ok text => return ⟨s, .goOn, [.setInput text true]⟩
  | .error failure => return ⟨s, .goOn, [.print (failure.message ++ "\n")]⟩

def obey? (s : Session) (line : String) : Option Reaction :=
  match s.mode with
  | .awaitingCorrection menu => answer? s menu line
  | .normal =>
    match Text.words line with
    | [] => some ⟨s, .goOn, []⟩
    | name :: args => run? commands s name args

def submit? (s : Session) (line : String) : Option Reaction :=
  match s.suggestions.confirmed? with
  | some text =>
    some ⟨{ s with suggestions := .hidden }, .goOn, [.hideSuggestions, .setInput text true]⟩
  | none => do
    let (s, hide) := s.hideSuggestions
    let line := Text.trim line
    return (← obey? commands (s.record line) line).after hide

def handle? (s : Session) : Event → Option Reaction
  | .textChanged text => let (s, calls) := changeText commands s text; some ⟨s, .goOn, calls⟩
  | .submitLine line => submit? commands s line
  | .navigateKey key => do let (s, calls) ← navigate? s key; return ⟨s, .goOn, calls⟩

/-- The session after these events, if each of them has a result. -/
def after? (s : Session) (events : List Event) : Option Session :=
  events.foldlM (fun s e => (handle? commands s e).map (·.session)) s

end GuidedShell.Strict
