import GuidedShell.Script.Builtin.Control

/-! Carrying out commands. -/
namespace GuidedShell.Script

def maxDepth : Nat := 1000

/-- A simple command as far as its name is known. -/
structure Call where
  /-- The words before the name. -/
  before : List Octets
  /-- The words from the name on. -/
  words : List Octets
  /-- The words that are not yet expanded. -/
  rest : List Word
  /-- What the name means, unless it is a program. -/
  meaning? : Option Meaning
  /-- Its errors end the script, and its assignments last. -/
  isSpecial : Bool
  /-- The search path that it is looked for along, if it is not that of the script. -/
  search? : Option Octets

namespace Step

variable (go : Carrier)

/-- Expand words until they make something. -/
def firstFields : List Word → Step (List Octets × List Word)
  | [] => return ([], [])
  | w :: ws => do
    match ← expandFields w with
    | [] => firstFields ws
    | fields => return (fields, ws)

/-- Expand more words, if that is needed for there to be more than `count`. -/
def reach (count : Nat) (fields : List Octets) (ws : List Word) :
    Step (List Octets × List Word) := do
  if count < fields.length then return (fields, ws)
  let (more, ws) ← firstFields ws
  return (fields ++ more, ws)

/-- The options of `command`, if another command follows: their number, and the search path that
they ask for. The words are expanded as far as they have to be. -/
def pastOptions : (fuel : Nat) → (search? : Option Octets) → (count : Nat) → List Octets →
    List Word → Step (Option (Nat × Option Octets) × List Octets × List Word)
  | 0, _, _, fields, ws => return (none, fields, ws)
  | n + 1, search?, count, fields, ws => do
    let (fields, ws) ← reach count fields ws
    match fields[count]? with
    | none => return (none, fields, ws)
    | some ['-', '-'] =>
      let (fields, ws) ← reach (count + 1) fields ws
      let found := if count + 1 < fields.length then some (count + 1, search?) else none
      return (found, fields, ws)
    | some ('-' :: c :: cs) =>
      if (c :: cs).all (· == 'p') then
        pastOptions n (some Machine.defaultSearch) (count + 1) fields ws
      else return (none, fields, ws)
    | some _ => return (some (count, search?), fields, ws)

/-- Find out what a command means. `command` itself is passed over where another command follows
it, which then is no function. -/
def resolve : (fuel : Nat) → Call → Step Call
  | 0, call => return call
  | n + 1, call => do
    let m ← get
    let name := call.words.headD []
    let isFirst := call.before.isEmpty
    match if isFirst then m.functions.lookup name else none, Machine.builtin? name with
    | some body, _ => return { call with meaning? := some (.function body) }
    | none, none => return call
    | none, some b =>
      let isSpecial := if isFirst then isSpecial b else call.isSpecial
      let call := { call with isSpecial, meaning? := some (.builtin b) }
      if b != "command" then return call
      let (past?, args, rest) ← pastOptions patience call.search? 0 (call.words.drop 1) call.rest
      match past? with
      | none => return { call with words := name :: args, rest }
      | some (count, search?) =>
        resolve n
          { call with
            before := call.before ++ name :: args.take count
            words := args.drop count
            rest
            meaning? := none
            search? }

/-- Find out what the words of a command mean, and expand all of them. -/
def callOf (ws : List Word) : Step Call := do
  let (words, rest) ← firstFields ws
  let call : Call := ⟨[], words, rest, none, false, none⟩
  if words.isEmpty then return call
  let call ← resolve patience call
  let mayAssign := match call.meaning? with
    | some (.builtin b) => assigns b
    | _ => false
  let more ← call.rest.mapM fun w =>
    match if mayAssign then Word.assignment? w else none with
    | some (name, value) => do return [name ++ '=' :: (← expandText .value value)]
    | none => expandFields w
  return { call with words := call.words ++ more.flatten, rest := [] }

/-- Write what a command is about to do to a stream. -/
def trace (stream? : Option Nat) (texts : List Octets) : Step Unit := do
  modify fun m => { m with tracing := true }
  let line := (← prompt "PS4") ++ Octets.joined [' '] texts ++ ['\n']
  modify fun m => { m with tracing := false }
  if let some number := stream? then
    let _ ← put number line

def invoke (st : Stance) (body : Command) (args : List Octets) : Step Unit := do
  let m ← get
  if m.depth ≥ maxDepth then
    fail ("Maximum function recursion depth (".toList ++ decimal maxDepth ++ ") reached".toList)
  set { m with args, optionIndex := 1, optionOffset := none, loops := 0, depth := m.depth + 1 }
  let out ← outcome (go ⟨st.tested, false⟩ (some body))
  modify fun after =>
    { after with
      args := m.args
      optionIndex := m.optionIndex
      optionOffset := m.optionOffset
      loops := m.loops
      depth := m.depth }
  unless out matches .error (.leaveFunction _) do MonadExcept.ofExcept out

/-- Carry out a program, or a function that has to be read first. -/
def runProgram (st : Stance) (call : Call) : Step Unit := do
  let name := call.words.headD []
  let search := call.search?.getD ((← get).value "PATH")
  let isFirst := call.before.isEmpty
  let meaning ←
    if name.contains '/' then pure (.program 0)
    else match call.search? with
      | some search => meaningAlong go search name isFirst
      | none => locate go isFirst name
  match meaning with
  | .function body => invoke go st body (call.words.drop 1)
  | .program n =>
    let candidates := Machine.candidates name search n
    if st.final && !(← get).hasTraps then become go call.words candidates
    else external call.words candidates
  | .unknown fault =>
    report (name ++ ": ".toList ++ complaint fault "not found")
    done 127
  | .builtin _ => done 127

/-- Carry out a command whose words are known. -/
def runCall (st : Stance) (call : Call) : Step Unit := do
  match call.meaning?, call.words with
  | _, [] => done (← get).outputStatus
  | some (.builtin b), name :: args => runBuiltin go st call.isSpecial b name args
  | some (.function body), _ :: args => invoke go st body args
  | _, _ => runProgram go st call

/-- Carry out assignments, and tell their texts. They belong to the command alone if `isLocal`. -/
def assignAll (isLocal exported : Bool) (assignments : List (Octets × Word)) :
    Step (List Octets) :=
  assignments.mapM fun (name, w) => do
    let value ← expandText .value w
    if isLocal then makeLocal name (some value) true
    else assign name (some value) exported false
    return name ++ '=' :: value

def simple (st : Stance) (line : Nat) (assignments : List (Octets × Word)) (words : List Word)
    (redirects : List Redirect) : Step Unit := do
  modify fun m => { m with line, outputStatus := 0 }
  let call ← callOf words
  let replaces := call.meaning? matches some (.builtin "exec")
  let isLocal := !call.words.isEmpty && !call.isSpecial
  let act : Step Unit := do
    let errors? := (← get).stream? 2
    let routes ← redirects.mapM route
    let body : Step Unit := do
      if ← redirectAll routes then
        let texts ← assignAll isLocal (replaces && call.words.length > 1) assignments
        let m ← get
        if m.isOn .xtrace && !m.tracing then
          trace (errors? <|> m.stream? 2) (texts ++ call.before ++ call.words)
        runCall go st call
      else if call.isSpecial then throw .fault
    if replaces then body else restoring routes body
  if isLocal then withFrame act else act

/-- Carry out a part of a loop. If it leaves the loop or goes on with the next round, the answer
tells whether the loop is to be left. -/
def inLoop (act : Step Unit) : Step (Option Bool) := do
  match ← outcome act with
  | .ok _ => return none
  | .error (.leaveLoop n) => if n ≤ 1 then return some true else throw (.leaveLoop (n - 1))
  | .error (.nextRound n) => if n ≤ 1 then return some false else throw (.nextRound (n - 1))
  | .error l => throw l

def asLoop (act : Step Unit) : Step Unit := do
  modify fun m => { m with loops := m.loops + 1 }
  ensuring act (modify fun m => { m with loops := m.loops - 1 })

/-- One round of a loop after a round that ended with some status. -/
def round (tested inverted : Bool) (test body : Command) (status : Nat) : Step (Nat × Bool) := do
  countRound
  match ← outcome (inLoop (go ⟨true, false⟩ (some test))) with
  | .error (.leaveFunction true) => throw (.leaveFunction true)
  | .error l =>
    unless l.endsScript do done status
    throw l
  | .ok (some leaves) => return (status, !leaves)
  | .ok none =>
    if ((← get).status != 0) != inverted then return (status, false)
    let left ← inLoop (go ⟨tested, false⟩ (some body))
    return ((← get).status, left != some true)

def eachWord (tested : Bool) (name : Octets) (body : Command) : List Octets → Step Unit
  | [] => return
  | w :: ws => do
    countRound
    setVariable name w
    let left ← inLoop (go ⟨tested, false⟩ (some body))
    unless left = some true do eachWord tested name body ws

def fitsAny (subject : Octets) : List Word → Step Bool
  | [] => return false
  | w :: ws => do
    let pattern := Grain.pattern (← expand .text false w)
    if Pattern.fits pattern subject then return true
    fitsAny subject ws

/-- Carry out what belongs to the first pattern that fits. -/
def select (st : Stance) (subject : Octets) : List (List Word × Option Command) → Step Unit
  | [] => done 0
  | (patterns, body) :: cases => do
    if ← fitsAny subject patterns then
      match body with
      | some c => go st (some c)
      | none => done 0
    else select st subject cases

/-- Note where a program is that another process is about to start. -/
def noteProgram (c : Command) : Step Unit := do
  if let .simple _ _ (w :: _) _ := c then
    if let some name := Word.bare? w then
      let m ← get
      let isKnown := (m.functions.lookup name).isSome || (Machine.builtin? name).isSome
      unless isKnown || !isName name do
        let _ ← locate go true name

/-- Carry out what a command says. -/
def carryOut (st : Stance) (c : Command) : Step Unit := do
  let on (st : Stance) (c : Command) : Step Unit := go st (some c)
  let test (c : Command) : Step Bool := do
    on ⟨true, false⟩ c
    return (← get).status = 0
  let routesOf (redirects : List Redirect) : Step (List Route) :=
    redirects.mapM route
  match c with
  | .simple line assignments words redirects => simple go st line assignments words redirects
  | .sequence a b =>
    on ⟨st.tested, false⟩ a
    on st b
  | .both a b => if ← test a then on st b
  | .either a b => unless ← test a do on st b
  | .negated a => done (if ← test a then 1 else 0)
  | .pipeline apart elements =>
    for c in elements do noteProgram go c
    if apart then background st.tested [] elements else pipeline st.tested [] elements
  | .branch a yes no =>
    if ← test a then on st yes
    else match no with
      | some no => on st no
      | none => done 0
  | .loop inverted a body =>
    asLoop do done (← iterate (round go st.tested inverted a body) patience 0)
  | .forEach line name words body =>
    modify fun m => { m with line }
    let fields ← expandAll words
    if fields.isEmpty then done 0 else asLoop (eachWord go st.tested name body fields)
  | .choose line subject cases =>
    modify fun m => { m with line }
    select go st (← expandText .text subject) cases
  | .group line body redirects =>
    modify fun m => { m with line }
    let routes ← routesOf redirects
    restoring routes do
      if ← redirectAll routes then on ⟨st.tested, false⟩ body
      else if (← get).isOn .errexit && !st.tested then throw .finish
  | .subshell line body redirects =>
    modify fun m => { m with line }
    let routes ← routesOf redirects
    if st.final && !(← get).hasTraps then
      for r in routes do redirect false r
      on st body
    else pipeline st.tested routes [body]
  | .background line? body redirects =>
    if let some line := line? then modify fun m => { m with line }
    let routes ← routesOf redirects
    background false routes [body]
  | .define name body =>
    modify fun m =>
      { m with
        functions := (name, body) :: m.functions.filter (·.1 != name)
        found := m.found.filter (·.1 != name) }
    done 0

/-- The commands whose failure can end a script. -/
def counts : Command → Bool
  | .simple .. | .subshell .. | .pipeline .. => true
  | _ => false

/-- Carry out a command, with what belongs before it and after it. -/
def attempt (st : Stance) (c? : Option Command) : Step Unit := do
  unless (← get).isOn .noexec do
    if let some c := c? then
      runTraps go
      let out ← outcome (carryOut go st c)
      let m ← get
      let endsAnyway := match out with
        | .ok _ => false
        | .error l => l.endsScript
      if !endsAnyway && m.isOn .errexit && counts c && !st.tested && m.status != 0 then
        throw .finish
      MonadExcept.ofExcept out
  runTraps go
  if st.final then throw .finish

/-- Carry out a command. Commands nested deeper than `fuel` end the process. -/
def run : (fuel : Nat) → Carrier
  | 0, _, _ => throw (.ended (.killed 11))
  | n + 1, st, c? => attempt (run n) st c?

end Step

end GuidedShell.Script
