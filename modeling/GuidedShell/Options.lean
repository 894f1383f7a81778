import GuidedShell.Environment

/-! The command line of the shell. -/
namespace GuidedShell

structure Options where
  historyFile : Option String
  logLevel : Option String

namespace Options

/-- Why the command line starts no session. -/
inductive Stop where
  | help
  | trailingAfterHelp
  | unrecognized (word : String)
  | noValue (option : String)
  | duplicate (option value : String)

def helpText : String :=
  "Usage: aurashell [--history-file <history-file>] [--log-level <log-level>]\n" ++
  "\n" ++
  "AuraShell: an interactive shell with live command suggestions and typo correction.\n" ++
  "\n" ++
  "Options:\n" ++
  "  --history-file    file the command history is loaded from and saved to\n" ++
  "                    (default: ~/.aurashell_history).\n" ++
  "  --log-level       tracing filter used when RUST_LOG is not set (default:\n" ++
  "                    warn).\n" ++
  "  --help, help      display usage information\n"

def Stop.message : Stop → String
  | .help => helpText
  | .trailingAfterHelp => "Trailing arguments are not allowed after \x60help\x60."
  | .unrecognized word => "Unrecognized argument: " ++ word ++ "\n"
  | .noValue option => "No value provided for option '" ++ option ++ "'.\n"
  | .duplicate option value =>
    "Error parsing option '" ++ option ++ "' with value '" ++ value ++
      "': duplicate values provided\n"

/-- What the process writes and returns. -/
structure Report where
  code : Nat
  stdout : String
  stderr : String

def Stop.report : Stop → Report
  | .help => ⟨0, helpText ++ "\n", ""⟩
  | stop => ⟨1, "", stop.message ++ "\nRun aurashell --help for more information.\n"⟩

def unset : Options := ⟨none, none⟩

/-- Give an option its value. Every option may have one. -/
def set (o : Options) (option value : String) : Except Stop Options :=
  if option = "--history-file" then
    if o.historyFile.isSome then .error (.duplicate option value)
    else .ok { o with historyFile := some value }
  else if option = "--log-level" then
    if o.logLevel.isSome then .error (.duplicate option value)
    else .ok { o with logLevel := some value }
  else .error (.unrecognized option)

def isOption (word : String) : Bool := word = "--history-file" || word = "--log-level"

/-- Words after two dashes are never options. -/
def parsePlain (o : Options) (help : Bool) : List String → Except Stop Options
  | [] => if help then .error .help else .ok o
  | word :: _ => .error (.unrecognized word)

/-- Read the words from left to right. Help is given only if nothing else is wrong. -/
def parseFrom (o : Options) (help : Bool) : List String → Except Stop Options
  | [] => if help then .error .help else .ok o
  | word :: rest =>
    if word = "--help" || word = "help" then parseFrom o true rest
    else if word = "--" then parsePlain o help rest
    else if Text.startsWith word "-" then
      if help then .error .trailingAfterHelp
      else if isOption word then
        match rest with
        | [] => .error (.noValue word)
        | value :: rest => do parseFrom (← o.set word value) help rest
      else .error (.unrecognized word)
    else .error (.unrecognized word)

def parse (words : List String) : Except Stop Options := parseFrom unset false words

end Options

structure Settings where
  historyFile : FilePath
  logLevel : String

namespace Settings

def historyName : String := ".aurashell_history"

def defaultLogLevel : String := "warn"

/-- What the command line leaves open has a default. -/
def ofOptions (o : Options) (env : Environment) (w : World) : Settings where
  historyFile :=
    match o.historyFile with
    | some file => Text.bytes file
    | none => FilePath.join ((env.home? w).getD FilePath.here) (Text.bytes historyName)
  logLevel := o.logLevel.getD defaultLogLevel

end Settings

end GuidedShell
