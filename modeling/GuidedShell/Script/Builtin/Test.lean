import GuidedShell.Script.Redirection

/-! Tests of texts, numbers and files. -/
namespace GuidedShell.Script.Test

inductive Kind where
  | unary
  | binary
  | not
  | both
  | either
  | opening
  | closing
  deriving DecidableEq

def kind? (w : Octets) : Option Kind :=
  match String.ofList w with
  | "!" => some .not
  | "-a" => some .both
  | "-o" => some .either
  | "(" => some .opening
  | ")" => some .closing
  | s =>
    if ["-r", "-w", "-x", "-e", "-f", "-d", "-c", "-b", "-p", "-u", "-g", "-k", "-s", "-t", "-z",
        "-n", "-h", "-O", "-G", "-L", "-S"].contains s then some .unary
    else if ["=", "!=", "<", ">", "-eq", "-ne", "-ge", "-gt", "-le", "-lt", "-nt", "-ot",
        "-ef"].contains s then some .binary
    else none

inductive Thing where
  | node (n : Node)
  | pipe

/-- What stands at a path. A process finds its own streams, too. -/
def thing? (m : Machine) (w : Octets) : Option Thing :=
  match m.ownStream? w with
  | none => (m.stat? w).map .node
  | some d => do
    let stream ← m.shared.streams[← m.stream? d]?
    match stream.channel with
    | .file loc => (m.files.node? loc).map .node
    | .pipe _ => some .pipe
    | .device d => some (.node (.device d))

def isLink (m : Machine) (w : Octets) : Bool :=
  match m.files.findEntry m.here (Machine.path w) with
  | .error _ => false
  | .ok loc =>
    match m.files.node? loc with
    | some node => (node matches .link _)
    | none => (Machine.ownDescriptor? loc).any fun d => (m.stream? d).isSome

/-- Something stands at a path, and this may not be done with it. -/
def refuses (m : Machine) (a : Access) (w : Octets) : Bool :=
  (m.stat? w).isSome && !m.files.allows m.here (Machine.path w) a

def unary (m : Machine) (op : Octets) (w : Octets) : Step Bool := do
  let thing? := thing? m w
  let node? : Option Node := match thing? with
    | some (.node n) => some n
    | _ => none
  match String.ofList op with
  | "-n" => return !w.isEmpty
  | "-z" => return w.isEmpty
  | "-t" =>
    match Numeral.whole? (some 10) w with
    | some _ => return false
    | none => Step.fail ("Illegal number: ".toList ++ w)
  | "-e" | "-O" | "-G" => return thing?.isSome
  | "-r" => return thing?.isSome && !refuses m .read w
  | "-w" => return thing?.isSome && !refuses m .write w
  | "-f" => return node?.any fun n => (n matches .file ..)
  | "-d" => return node? == some .directory
  | "-s" =>
    return match node? with
      | some (.file _ content) => !content.isEmpty
      | some .directory => true
      | _ => false
  | "-x" => return (node?.any fun n => n.isProgram || n == .directory) && !refuses m .execute w
  | "-h" | "-L" => return isLink m w
  | "-c" => return node?.any fun n => (n matches .device _)
  | "-p" => return (thing? matches some .pipe)
  | "-u" => return mode node? &&& 0o4000 != 0
  | "-g" => return mode node? &&& 0o2000 != 0
  | "-k" => return mode node? &&& 0o1000 != 0
  | _ => return false
where
  mode : Option Node → Nat
    | some (.file mode _) => mode
    | _ => 0

def number (w : Octets) : Step Int :=
  match Numeral.whole? (some 10) w with
  | some n => return n
  | none => Step.fail ("Illegal number: ".toList ++ w)

def binary (m : Machine) (op a b : Octets) : Step Bool := do
  let compare (f : Int → Int → Bool) : Step Bool := do
    let x ← number a
    return f x (← number b)
  let place (w : Octets) : Option Location := (m.files.find m.here (Machine.path w)).toOption
  match String.ofList op with
  | "=" => return a == b
  | "!=" => return a != b
  | "<" => return a.isBelow b
  | ">" => return b.isBelow a
  | "-eq" => compare (· == ·)
  | "-ne" => compare (· != ·)
  | "-lt" => compare (· < ·)
  | "-le" => compare (· ≤ ·)
  | "-gt" => compare (· > ·)
  | "-ge" => compare (· ≥ ·)
  | "-ef" => return (place a).isSome && place a == place b
  | _ => return false

/-- What a word counts as, with the words after it. -/
def token (ws : List Octets) : Option Kind :=
  match ws with
  | [] => none
  | w :: rest =>
    match kind? w with
    | some .unary =>
      match rest with
      | [] => none
      | [_] => some .unary
      | next :: _ => if kind? next = some .binary then none else some .unary
    | some .opening => if rest.isEmpty then none else some .opening
    | k => k

def complain {α : Type} (w : Octets) (text : String) : Step α :=
  Step.fail (if w.isEmpty then text.toList else w ++ ": ".toList ++ text.toList)

mutual

/-- The truth of a test, and its last word with the words after it. `t` is what its first word
counts as. -/
def disjunction (m : Machine) : (fuel : Nat) → (t : Option Kind) → List Octets →
    Step (Bool × List Octets)
  | 0, _, ws => return (false, ws)
  | n + 1, t, ws => do
    let (a, ws) ← conjunction m n t ws
    if token (ws.drop 1) = some .either then
      let ws := ws.drop 2
      let (b, ws) ← disjunction m n (token ws) ws
      return (a || b, ws)
    return (a, ws)

def conjunction (m : Machine) : (fuel : Nat) → (t : Option Kind) → List Octets →
    Step (Bool × List Octets)
  | 0, _, ws => return (false, ws)
  | n + 1, t, ws => do
    let (a, ws) ← negation m n t ws
    if token (ws.drop 1) = some .both then
      let ws := ws.drop 2
      let (b, ws) ← conjunction m n (token ws) ws
      return (a && b, ws)
    return (a, ws)

def negation (m : Machine) : (fuel : Nat) → (t : Option Kind) → List Octets →
    Step (Bool × List Octets)
  | 0, _, ws => return (false, ws)
  | n + 1, t, ws => do
    if t != some .not then primary m n t ws
    else
      let rest := ws.drop 1
      if rest.isEmpty then return (true, ws)
      let (a, ws) ← negation m n (token rest) rest
      return (!a, ws)

def primary (m : Machine) : (fuel : Nat) → (t : Option Kind) → List Octets →
    Step (Bool × List Octets)
  | 0, _, ws => return (false, ws)
  | n + 1, t, ws => do
    match ws with
    | [] => return (false, [])
    | w :: rest =>
      if t = some .opening then
        if token rest = some .closing then return (false, rest)
        let (a, ws) ← disjunction m n (token rest) rest
        if token (ws.drop 1) != some .closing then complain [] "closing paren expected"
        return (a, ws.drop 1)
      else if t = some .unary then
        match rest with
        | [] => complain w "argument expected"
        | v :: _ => return (← unary m w v, rest)
      else if token rest = some .binary then
        match rest with
        | op :: b :: after => return (← binary m op w b, b :: after)
        | op :: [] => complain op "argument expected"
        | [] => return (false, ws)
      else return (!w.isEmpty, ws)

end

def holds (m : Machine) : (fuel : Nat) → (inverted : Bool) → List Octets → Step Bool
  | 0, _, _ => return false
  | n + 1, inverted, ws => do
    let whole (t : Option Kind) (ws : List Octets) : Step Bool := do
      let (a, rest) ← disjunction m (4 * ws.length + 8) t ws
      match rest with
      | w :: _ :: _ => complain w "unexpected operator"
      | _ => return a != inverted
    let plain (ws : List Octets) : Step Bool := whole (token ws) ws
    match ws with
    | [] => return inverted
    | [_, op, _] | [_, op, _, _] =>
      if ws.length = 3 && kind? op = some .binary then whole none ws
      else if ws.head? = some ['('] && ws.getLast? = some [')'] then plain (ws.drop 1).dropLast
      else if ws.head? = some ['!'] then holds m n true (ws.drop 1)
      else plain ws
    | ws => plain ws

end GuidedShell.Script.Test
