import GuidedShell.Console.Libraries
import GuidedShell.Terminal.Editor

/-! A whole session on a standard input that is no terminal. -/
namespace GuidedShell.Console

open Terminal

structure State where
  session : Session
  display : Display

namespace State

/-- What happens before a line is read. -/
def ready (plain : Bool) (s : State) : State :=
  let display := { s.display.finishLine with pendingInput := none }
  let prompt := if plain then Editor.prompt s.session else ""
  { s with display := { display with written := display.written ++ prompt } }

def close (s : State) : State :=
  let (session, calls) := s.session.shutdown
  { session, display := s.display.finishLine.applyAll calls }

/-- Take a line, if one could be read. Otherwise the session ends as at the end of the input. -/
def take (programs : Programs) (s : State) (line? : Option String) : State × Flow :=
  match line? with
  | none => (s.close, .exit)
  | some line =>
    let r := s.session.handle programs (.submitLine line)
    ({ session := r.session, display := s.display.applyAll r.calls }, r.flow)

/-- Read the lines one after another until the session ends. -/
def run (libs : Libraries) (programs : Programs) (plain : Bool) (s : State) : List Bytes → State
  | [] => (s.ready plain).close
  | raw :: rest =>
    match (s.ready plain).take programs (libs.text? raw) with
    | (s, .exit) => s
    | (s, .goOn) => run libs programs plain s rest

end State

def welcome : String := "Welcome to AuraShell. History loaded. Type 'help' for commands.\n"

def startEnvironment (w : World) : Environment := ⟨w.vars, w.here.path, false⟩

/-- A session that keeps its history in `file`, before its first line is read. -/
def start (w : World) (file : FilePath) : State :=
  let (history, failure?) := History.load w.files w.here file
  let environment := startEnvironment w
  let session := Session.new w environment (CommandIndex.build w environment) history
  let complaint := failure?.toList.map fun f =>
    Surface.Call.print ("Error loading history: " ++ f.message ++ "\n")
  { session, display := Display.empty.applyAll (complaint ++ [.print welcome]) }

def session (libs : Libraries) (programs : Programs) (w : World) (terminal : String)
    (file : FilePath) (input : Bytes) : State :=
  (start w file).run libs programs (libs.isPlain terminal) (rawLines input)

end GuidedShell.Console
