import GuidedShell.Script.Numeral
import GuidedShell.Script.Source
import GuidedShell.Script.Spelling

/-! From the text of a script to its commands. -/
namespace GuidedShell.Script

def isBreak (c : Char) : Bool :=
  ['<', '>', '(', ')', ';', '&', '|', ' ', '\t'].contains c

/-- Bytes that are kept from having a meaning even without quotes. -/
def isReservedByte (c : Char) : Bool := 0x81 ≤ c.toNat && c.toNat ≤ 0x88

def isSpecialParameter (c : Char) : Bool := ['@', '*', '#', '?', '$', '!', '-'].contains c

/-- The treatment that a sign after the name of a parameter asks for. -/
def Treatment.ofSign (c : Option Char) : Treatment :=
  match c with
  | some '\x7d' => .plain
  | some '-' => .useDefault
  | some '+' => .useOther
  | some '?' => .demand
  | some '=' => .assignDefault
  | _ => .senseless

/-- The command, and nobody waits for it. -/
def Command.apart : Command → Command
  | .pipeline _ elements => .pipeline true elements
  | .group line body redirects => .background (some line) body redirects
  | c => .background none c []

/-- The parts of a simple command. -/
structure Parts where
  assignments : List (Octets × Word)
  words : List Word
  redirects : List Redirect

def Parts.init : Parts := ⟨[], [], []⟩

def Parts.command (p : Parts) (line : Nat) : Command :=
  .simple line p.assignments p.words p.redirects

namespace Reader

def expect (found wanted : Token) : Reader Unit :=
  if found = wanted then pure () else throw (.unexpected found (some wanted))

def unexpected {α : Type} : Reader α := do throw (.unexpected (← get).token none)

def pushBack : Reader Unit := modify fun s => { s with pushed := true }

def look (o : Outlook) : Reader Unit := modify fun s => { s with outlook := o }

def met (t : Token) : Reader Token := do
  modify fun s => { s with token := t }
  return t

/-- Characters as long as they fit, after `c`, and the one that follows. -/
def stretch (fits : Char → Bool) :
    (fuel : Nat) → Octets → Option Char → Reader (Octets × Option Char)
  | 0, _, _ => throw .endless
  | n + 1, held, c => do
    match c with
    | some d =>
      if fits d then stretch fits n (d :: held) (← nextJoined n)
      else return (held.reverse, c)
    | none => return (held.reverse, c)

/-- The first character of a line of a document, or none if the document ends before the line. -/
def lineStart (p : Promise) (c : Option Char) : (fuel : Nat) → Reader (Option Char)
  | 0 => throw .endless
  | n + 1 => do
    if p.indented && c == some '\t' then lineStart p (← next) n
    else
      back c
      let cs := (← get).ahead
      let size := p.ending.length
      if p.ending.isPrefixOf cs && (cs.drop size).head?.all (· == '\n') then
        skip (size + 1)
        countLine
        return none
      else next

/-- What stands between back quotes, without the backslashes that protect something there. -/
def backQuoted (firm : Bool) : (fuel : Nat) → Octets → Reader Octets
  | 0, _ => throw .endless
  | n + 1, held => do
    match ← nextJoined n with
    | none => throw .unterminatedBackQuote
    | some '\x60' => return held.reverse
    | some '\\' =>
      match ← next with
      | none => backQuoted firm n ('\\' :: held)
      | some c =>
        if c == '\\' || c == '\x60' || c == '$' || (firm && c == '\x22') then
          backQuoted firm n (c :: held)
        else backQuoted firm n (c :: '\\' :: held)
    | some c =>
      if c == '\n' then countLine
      backQuoted firm n (c :: held)

/-- The name of a parameter that begins with `c`, the treatment as far as the name shows it, and the
character after it. A special character may be missing its name. -/
def parameterName (braces : Bool) (fuel : Nat) (c : Option Char) :
    Reader (Octets × Option Treatment × Option Char) := do
  let plain (braces : Bool) (c : Char) : Reader (Octets × Option Char) := do
    if isNameStart c then stretch isNameChar fuel [] (some c)
    else if braces then stretch Char.isDigit fuel [] (some c)
    else return ([c], ← nextJoined fuel)
  match c with
  | none =>
    return ([], some .senseless, ← nextJoined fuel)
  | some c =>
    if isNameStart c || c.isDigit then
      let (name, after) ← plain braces c
      return (name, none, after)
    if c == '\x7d' then return ([], some .senseless, some c)
    let d ← nextJoined fuel
    if braces && c == '#' then
      match d with
      | some e =>
        if isNameChar e then
          let (name, after) ← plain true e
          return (name, some .length, after)
      | none => pure ()
      let after ← nextJoined fuel
      if d == some '\x7d' || after != some '\x7d' then
        back after
        return (['#'], none, d)
      match d with
      | some e =>
        if isSpecialParameter e then return ([e], some .length, after)
        return ([e], some .senseless, after)
      | none => return ([], some .senseless, after)
    if isSpecialParameter c then return ([c], none, d)
    return ([c], some .senseless, d)

def comment : (fuel : Nat) → Reader Unit
  | 0 => throw .endless
  | n + 1 => do
    match ← next with
    | none => return
    | some '\n' => back (some '\n')
    | some _ => comment n

/-- The sign of a redirection, whose first character is known. -/
def arrow : (fuel : Nat) → Option Nat → (output : Bool) → Reader Token
  | 0, _, _ => throw .endless
  | n + 1, descriptor, output => do
    let given (kind : String) (indented : Bool) : Reader Token := do
      let a := ⟨descriptor.getD (if output then 1 else 0), kind, indented⟩
      modify fun s => { s with arrow := a }
      met .redirection
    let c ← nextJoined n
    if output then
      match c with
      | some '>' => given ">>" false
      | some '|' => given ">|" false
      | some '&' => given ">&" false
      | c =>
        back c
        given ">" false
    else
      match c with
      | some '<' =>
        let d ← nextJoined n
        if d == some '-' then given "<<" true
        else
          back d
          given "<<" false
      | some '&' => given "<&" false
      | some '>' => given "<>" false
      | c =>
        back c
        given "<" false

mutual

/-- Read on in a word that may be a document, from the character `c` on. -/
def spell (document : Option Promise) : (fuel : Nat) → Spelling → Option Char →
    Reader (Spelling × Option Char)
  | 0, _, _ => throw .endless
  | n + 1, w, c? => do
    let following (w : Spelling) : Reader (Option Char) :=
      if w.frame.mode = .single then next else nextJoined n
    let more (w : Spelling) : Reader (Spelling × Option Char) := do
      spell document n w (← following w)
    match c? with
    | none => return (w, none)
    | some c =>
      if c == '\n' then
        if w.frame.mode = .bare && w.frame.braces = 0 then return (w, c?)
        countLine
        let c ← following w
        spell document n (w.add '\n') (← match document with
          | some p => lineStart p c n
          | none => pure c)
      else match w.frame.mode with
        | .single =>
          more (if c == '\x27' then w.closeQuote c document.isSome else w.addFirm c)
        | mode =>
          if c == '\\' then
            match ← next with
            | none => more ((w.addFirm '\\'))
            | some '\n' =>
              countLine
              more w
            | some d =>
              let protects := !w.frame.firm || d == '\\' || d == '\x60' || d == '$' ||
                (d == '\x22' && (document.isNone || w.frame.braces != 0)) ||
                (d == '\x7d' && w.frame.braces != 0)
              let w := if protects then w else w.addFirm '\\'
              more { w.addFirm d with quoted := true }
          else if c == '$' then more (← dollar n w)
          else if c == '\x60' then
            more (← if (← get).outlook.mark then pure (w.add c) else backQuote n w)
          else if c == '\x7d' then more w.closeBrace
          else match mode with
            | .bare =>
              if c == '\x27' then
                more ({ w with frame := { w.frame with mode := .single } }.addQuote document.isSome)
              else if c == '\x22' then
                let w := { w with frame := { w.frame with mode := .double, firm := true } }
                more (w.toggle.addQuote document.isSome)
              else if isBreak c && w.frame.braces = 0 then return (w, c?)
              else more (if isReservedByte c then w.addFirm c else w.add c)
            | .double =>
              more (if c == '\x22' then w.closeQuote c document.isSome else w.addFirm c)
            | _ =>
              if c == '(' then
                let f := { w.frame with parentheses := w.frame.parentheses + 1 }
                more ({ w with frame := f }.add c)
              else if c == ')' then
                if w.frame.parentheses != 0 then
                  let f := { w.frame with parentheses := w.frame.parentheses - 1 }
                  more ({ w with frame := f }.add c)
                else
                  let d ← nextJoined n
                  if d == some ')' then more w.leave.pop
                  else
                    back d
                    more (w.add c)
              else more (w.add c)
termination_by structural n => n

/-- What a dollar sign begins. -/
def dollar : (fuel : Nat) → Spelling → Reader Spelling
  | 0, _ => throw .endless
  | n + 1, w => do
    let c ← nextJoined n
    if (← get).outlook.mark then
      back c
      return w.add '$'
    match c with
    | none => return w.add '$'
    | some '(' =>
      let d ← nextJoined n
      if d == some '(' then return (w.enter .arithmetic).push (Frame.plain .arithmetic true)
      back d
      let body ← substitution n
      return w.addPiece (.output body)
    | some c =>
      if !(c == '\x7b' || isNameStart c || c.isDigit || isSpecialParameter c) then
        back (some c)
        return w.add '$'
      let braces := c == '\x7b'
      let (name, treatment, after) ← parameterName braces n
        (← if braces then nextJoined n else pure (some c))
      let inherited := if w.frame.mode = .arithmetic then .double else w.frame.mode
      if !braces then
        back after
        return w.addPiece (.parameter name .plain false [])
      match treatment with
      | some .length =>
        back after
        let t := if after == some '\x7d' then Treatment.length else .senseless
        return w.openBrace (.parameter name t false) inherited
      | some t =>
        back after
        return w.openBrace (.parameter name t false) inherited
      | none =>
        match after with
        | some '\x7d' => return w.addPiece (.parameter name .plain false [])
        | some ':' =>
          let t := Treatment.ofSign (← nextJoined n)
          return w.openBrace (.parameter name t true) inherited
        | some '%' | some '#' =>
          let d ← nextJoined n
          let longest := d == after
          if !longest then back d
          let t := if after == some '#' then Treatment.dropFront longest else .dropBack longest
          return w.openBrace (.parameter name t false) .bare
        | after => return w.openBrace (.parameter name (.ofSign after) false) inherited
termination_by structural n => n

/-- The commands up to a closing parenthesis. Documents that are promised there and have not come
until then are empty. -/
def substitution : (fuel : Nat) → Reader (Option Command)
  | 0 => throw .endless
  | n + 1 => do
    let promises := (← get).promises
    modify fun s => { s with promises := [] }
    let body ← list n false true none
    expect (← readToken n) (.sign ")")
    modify fun s =>
      let empty := s.promises.map fun p => (p.number, ⟨p.literal, []⟩)
      { s with promises, documents := empty ++ s.documents }
    return body
termination_by structural n => n

/-- The commands between back quotes, which are a text with lines of its own. -/
def backQuote : (fuel : Nat) → Spelling → Reader Spelling
  | 0, _ => throw .endless
  | n + 1, w => do
    let text ← backQuoted w.frame.firm n []
    let outer ← get
    set (Source.ofText outer.aliases outer.issued 1 text)
    let body ← list n false true none
    documents n
    modify fun s =>
      { outer with
        documents := s.documents ++ outer.documents
        issued := s.issued
        pushed := false
        outlook := s.outlook }
    return w.addPiece (.output body)
termination_by structural n => n

/-- The text of a document, whose first character has been taken. -/
def content : (fuel : Nat) → Promise → Option Char → Reader Spelling
  | 0, _, _ => throw .endless
  | n + 1, p, c => do
    let frame := if p.literal then Frame.plain .single false else Frame.plain .double true
    let (w, _) ← spell (some p) n (.start frame) c
    if w.frame.braces != 0 then throw .missingBrace
    if w.frame.mode = .arithmetic then throw .missingParentheses
    return w
termination_by structural n => n

/-- Read the documents that have been promised. -/
def documents : (fuel : Nat) → Reader Unit
  | 0 => throw .endless
  | n + 1 => do
    match (← get).promises with
    | [] => return
    | p :: ps =>
      modify fun s => { s with promises := ps }
      let w ← content n p (← lineStart p (← if p.literal then next else nextJoined n) n)
      modify fun s =>
        { s with
          token := .word
          word := w.word
          quoted := w.quoted
          documents := (p.number, ⟨p.literal, w.word⟩) :: s.documents }
      documents n
termination_by structural n => n

/-- The next token, without regard to what it may be taken for. -/
def rawToken : (fuel : Nat) → Reader Token
  | 0 => throw .endless
  | n + 1 => do
    if (← get).pushed then
      modify fun s => { s with pushed := false }
      return (← get).token
    let double (c : Char) (one two : String) : Reader Token := do
      let d ← nextJoined n
      if d == some c then met (.sign two)
      else
        back d
        met (.sign one)
    match ← nextJoined n with
    | some ' ' | some '\t' => rawToken n
    | some '#' =>
      comment n
      rawToken n
    | some '\n' =>
      countLine
      met .newline
    | none => met .endOfFile
    | some '&' => double '&' "&" "&&"
    | some '|' => double '|' "|" "||"
    | some ';' => double ';' ";" ";;"
    | some '(' => met (.sign "(")
    | some ')' => met (.sign ")")
    | c => wordToken n c
termination_by structural n => n

/-- A word, or the redirection that ends it. -/
def wordToken : (fuel : Nat) → Option Char → Reader Token
  | 0, _ => throw .endless
  | n + 1, c => do
    let (w, c) ← spell none n (.start (.plain .bare false)) c
    if w.frame.mode = .arithmetic then throw .missingParentheses
    if w.frame.mode != .bare then throw .unterminatedQuote
    if w.frame.braces != 0 then throw .missingBrace
    if c == some '<' || c == some '>' then
      if !w.quoted && w.pieces.isEmpty then
        match w.text with
        | [] => return ← arrow n none (c == some '>')
        | [d] => if d.isDigit then return ← arrow n (some (Numeral.digit d)) (c == some '>')
        | _ => pure ()
    back c
    modify fun s => { s with word := w.word, quoted := w.quoted }
    met .word
termination_by structural n => n

/-- The next token, as the outlook has it. -/
def readToken : (fuel : Nat) → Reader Token
  | 0 => throw .endless
  | n + 1 => do
    let wanted := (← get).outlook
    lookedFor n wanted
termination_by structural n => n

/-- The next token, with an outlook of its own. -/
def lookedFor : (fuel : Nat) → Outlook → Reader Token
  | 0, _ => throw .endless
  | n + 1, wanted => do
    let t ← rawToken n
    if t = .newline && wanted.lines then
      documents n
      look .none
      return ← lookedFor n wanted
    let wanted := { wanted with aliased := wanted.aliased || (← get).outlook.aliased }
    look .none
    let s ← get
    if t != .word || s.quoted then return t
    match s.word.bare? with
    | none => return t
    | some text =>
      if wanted.reserved then
        if let some r := Token.reserved? text then return ← met r
      if wanted.aliased then
        if let some value := s.alias? text then
          unless value.isEmpty do modify (·.enter text value)
          return ← lookedFor n wanted
      return t
termination_by structural n => n

/-- Commands up to the end of a line, or up to a token that ends a list. A list may be empty where
`ready`. -/
def list : (fuel : Nat) → (line ready : Bool) → Option Command → Reader (Option Command)
  | 0, _, _, _ => throw .endless
  | n + 1, line, ready, done => do
    look { Outlook.command with lines := !line }
    let t ← readToken n
    if t = .newline then
      documents n
      return done
    if t = .endOfFile then
      documents n
      pushBack
      let _ ← met .endOfFile
      return done
    pushBack
    if !line && ready && t.endsList then return done
    let next ← chain n
    let t ← readToken n
    let next := if t = .sign "&" then next.apart else next
    let done := match done with
      | none => next
      | some c => .sequence c next
    match t with
    | .endOfFile =>
      documents n
      pushBack
      let _ ← met .endOfFile
      return some done
    | .newline =>
      pushBack
      list n line true (some done)
    | .sign "&" | .sign ";" => list n line true (some done)
    | _ =>
      if line then unexpected
      pushBack
      return some done
termination_by structural n => n

/-- Pipelines with `&&` and `||` between them. -/
def chain : (fuel : Nat) → Reader Command
  | 0 => throw .endless
  | n + 1 => do
    chained n (← pipeline n)
termination_by structural n => n

def chained : (fuel : Nat) → Command → Reader Command
  | 0, _ => throw .endless
  | n + 1, first => do
    match ← readToken n with
    | .sign "&&" =>
      look .commandBelow
      chained n (.both first (← pipeline n))
    | .sign "||" =>
      look .commandBelow
      chained n (.either first (← pipeline n))
    | _ =>
      pushBack
      return first
termination_by structural n => n

def pipeline : (fuel : Nat) → Reader Command
  | 0 => throw .endless
  | n + 1 => do
    let negated := (← readToken n) = .reserved "!"
    if negated then look .command else pushBack
    let first ← command n
    let c ← if (← readToken n) = .sign "|" then
        pure (.pipeline false (first :: (← elements n)))
      else pure first
    pushBack
    return if negated then .negated c else c
termination_by structural n => n

/-- The elements of a pipeline after its first. -/
def elements : (fuel : Nat) → Reader (List Command)
  | 0 => throw .endless
  | n + 1 => do
    look .commandBelow
    let c ← command n
    if (← readToken n) = .sign "|" then return c :: (← elements n)
    return [c]
termination_by structural n => n

/-- A list that may not be empty, except where the text ends and more is missing. -/
def body : (fuel : Nat) → Reader Command
  | 0 => throw .endless
  | n + 1 => do
    return (← list n false false none).getD (.simple 0 [] [] [])
termination_by structural n => n

def command : (fuel : Nat) → Reader Command
  | 0 => throw .endless
  | n + 1 => do
    let line := (← get).line
    match ← readToken n with
    | .reserved "if" => finished n line (.reserved "fi") (← branch n)
    | .reserved "while" => finished n line (.reserved "done") (← loop n false)
    | .reserved "until" => finished n line (.reserved "done") (← loop n true)
    | .reserved "for" => finished n line (.reserved "done") (← forEach n line)
    | .reserved "case" => redirected n line (← choose n line)
    | .sign "(" =>
      let c ← body n
      finished n line (.sign ")") (.subshell line c [])
    | .reserved "\x7b" => finished n line (.reserved "\x7d") (← body n)
    | .word | .redirection =>
      pushBack
      simple n (← get).line .init
    | _ => unexpected
termination_by structural n => n

/-- A command that a token has to close. -/
def finished : (fuel : Nat) → (line : Nat) → Token → Command → Reader Command
  | 0, _, _, _ => throw .endless
  | n + 1, line, closing, c => do
    expect (← readToken n) closing
    redirected n line c
termination_by structural n => n

def redirected : (fuel : Nat) → (line : Nat) → Command → Reader Command
  | 0, _, _ => throw .endless
  | n + 1, line, c => do
    look .command
    let rs ← redirects n
    return match rs, c with
      | [], c => c
      | rs, .subshell line body _ => .subshell line body rs
      | rs, c => .group line c rs
termination_by structural n => n

def redirects : (fuel : Nat) → Reader (List Redirect)
  | 0 => throw .endless
  | n + 1 => do
    if (← readToken n) = .redirection then
      let r ← target n
      return r :: (← redirects n)
    pushBack
    return []
termination_by structural n => n

def target : (fuel : Nat) → Reader Redirect
  | 0 => throw .endless
  | n + 1 => do
    let a := (← get).arrow
    if a.kind = "<<" then look { Outlook.none with mark := true }
    if (← readToken n) != .word then unexpected
    let s ← get
    match a.kind with
    | "<<" =>
      let p : Promise := ⟨s.issued, s.word.characters, s.quoted, a.indented⟩
      set { s with promises := s.promises ++ [p], issued := s.issued + 1 }
      return .document a.descriptor s.issued
    | ">&" | "<&" =>
      return match s.word with
        | [.text [c]] =>
          if c.isDigit then .copy a.descriptor (some (Numeral.digit c))
          else if c == '-' then .copy a.descriptor none
          else .copyNamed a.descriptor s.word
        | w => .copyNamed a.descriptor w
    | kind =>
      let how := match kind with
        | ">>" => Opening.append
        | ">|" => .replacement
        | "<>" => .both
        | ">" => .output
        | _ => .input
      return .file a.descriptor how s.word
termination_by structural n => n

def branch : (fuel : Nat) → Reader Command
  | 0 => throw .endless
  | n + 1 => do
    let test ← body n
    expect (← readToken n) (.reserved "then")
    let yes ← body n
    match ← readToken n with
    | .reserved "elif" => return .branch test yes (some (← branch n))
    | .reserved "else" => return .branch test yes (some (← body n))
    | _ =>
      pushBack
      return .branch test yes none
termination_by structural n => n

def loop : (fuel : Nat) → (inverted : Bool) → Reader Command
  | 0, _ => throw .endless
  | n + 1, inverted => do
    let test ← body n
    expect (← readToken n) (.reserved "do")
    return .loop inverted test (← body n)
termination_by structural n => n

def forEach : (fuel : Nat) → (line : Nat) → Reader Command
  | 0, _ => throw .endless
  | n + 1, line => do
    if (← readToken n) != .word then throw .loopVariable
    let s ← get
    let name := (s.word.bare?).getD []
    if s.quoted || !isName name then throw .loopVariable
    look .commandBelow
    let ws ← if (← readToken n) = .reserved "in" then
        let ws ← words n
        let t := (← get).token
        if t != .newline && t != .sign ";" then unexpected
        pure ws
      else
        if (← get).token != .sign ";" then pushBack
        pure [[.quote, .parameter ['@'] .plain false [], .quote]]
    look .commandBelow
    expect (← readToken n) (.reserved "do")
    return .forEach line name ws (← body n)
termination_by structural n => n

def words : (fuel : Nat) → Reader (List Word)
  | 0 => throw .endless
  | n + 1 => do
    if (← readToken n) = .word then
      let w := (← get).word
      return w :: (← words n)
    return []
termination_by structural n => n

def choose : (fuel : Nat) → (line : Nat) → Reader Command
  | 0, _ => throw .endless
  | n + 1, line => do
    expect (← readToken n) .word
    let subject := (← get).word
    look .commandBelow
    expect (← readToken n) (.reserved "in")
    return .choose line subject (← cases n)
termination_by structural n => n

def cases : (fuel : Nat) → Reader (List (List Word × Option Command))
  | 0 => throw .endless
  | n + 1 => do
    look { Outlook.none with lines := true, reserved := true }
    let t ← readToken n
    if t = .reserved "esac" then return []
    if t = .sign "(" then let _ ← readToken n
    let ps ← patterns n
    expect (← get).token (.sign ")")
    let c ← list n false true none
    look { Outlook.none with lines := true, reserved := true }
    let t ← readToken n
    if t = .reserved "esac" then return [(ps, c)]
    expect t (.sign ";;")
    return (ps, c) :: (← cases n)
termination_by structural n => n

/-- Patterns, the first of which has been read. -/
def patterns : (fuel : Nat) → Reader (List Word)
  | 0 => throw .endless
  | n + 1 => do
    let w := (← get).word
    if (← readToken n) = .sign "|" then
      let _ ← readToken n
      return w :: (← patterns n)
    return [w]
termination_by structural n => n

/-- The parts of a simple command, in the order in which they are written. -/
def simple : (fuel : Nat) → (line : Nat) → Parts → Reader Command
  | 0, _, _ => throw .endless
  | n + 1, line, parts => do
    look { Outlook.none with aliased := parts.words.isEmpty }
    match ← readToken n with
    | .word =>
      let w := (← get).word
      match if parts.words.isEmpty then w.assignment? else none with
      | some a => simple n line { parts with assignments := parts.assignments ++ [a] }
      | none => simple n line { parts with words := parts.words ++ [w] }
    | .redirection =>
      let r ← target n
      simple n line { parts with redirects := parts.redirects ++ [r] }
    | .sign "(" =>
      match parts with
      | ⟨[], [w], []⟩ =>
        expect (← readToken n) (.sign ")")
        let name := (w.bare?).getD []
        if !isName name || specialCommands.contains (String.ofList name) then throw .functionName
        look .commandBelow
        return .define name (← command n)
      | parts =>
        pushBack
        return parts.command line
    | _ =>
      pushBack
      return parts.command line
termination_by structural n => n

end

end Reader

/-- What a source holds next. -/
inductive Found where
  | command (c : Command)
  /-- An empty line. -/
  | nothing
  | finished

namespace Source

def patience : Nat := 10000000

/-- The next command, up to the end of its line, and the source after it. -/
def command? (s : Source) : Except Flaw Found × Source :=
  let s := { s with pushed := false, outlook := .none, promises := [], documents := [] }
  let (out, s) := (Reader.list patience true false none).run.run s
  (match out with
    | .ok (some c) => .ok (.command c)
    | .ok none => .ok (if s.token = .endOfFile then .finished else .nothing)
    | .error flaw => .error flaw, s)

/-- All of a source as the text of a document, which no line ends before. -/
def document? (s : Source) : Except Flaw Word :=
  let spelled : Reader Word := do
    return (← Reader.content patience ⟨0, ['\n'], false, false⟩ (← Reader.next)).word
  (spelled.run.run s).1

end Source

end GuidedShell.Script
