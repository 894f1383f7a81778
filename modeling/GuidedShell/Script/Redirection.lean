import GuidedShell.Script.Expansion
import GuidedShell.Script.Token

/-! Redirecting what scripts read and write. -/
namespace GuidedShell.Script

def Opening.creates : Opening → Bool
  | .input => false
  | _ => true

/-- Why a file cannot be opened. -/
structure Refusal where
  fault : Fault
  /-- It was to be created if necessary. -/
  creating : Bool

def Refusal.describe (r : Refusal) (name : Octets) : Octets :=
  (if r.creating then "cannot create " else "cannot open ").toList ++ name ++ ": ".toList ++
    Step.complaint r.fault (if r.creating then "Directory nonexistent" else "No such file")

namespace Machine

/-- The descriptor that a process finds at a place among those of its own. -/
def ownDescriptor? (loc : Location) : Option Nat :=
  match loc with
  | [name, fd, self, proc] =>
    if [proc, self, fd] = ["proc", "self", "fd"].map Text.bytes then
      Numeral.ofDigits? (Octets.ofBytes name)
    else none
  | _ => none

/-- The descriptor of its own that a process finds at a path. -/
def ownStream? (m : Machine) (p : Octets) : Option Nat :=
  (m.files.reach .look m.here (path p)).toOption.bind ownDescriptor?

/-- Open a file as a new stream. Where existing files are to be kept, nothing is created in place of
what is there. -/
def openFile (m : Machine) (how : Opening) (p : Octets) : Except Refusal (Nat × Machine) := do
  match m.ownStream? p with
  | some d =>
    match (m.stream? d).bind (m.shared.streams[·]?) with
    | some { channel := .file loc, .. } => openNamed (Octets.ofBytes loc.path)
    | some stream => return opened m stream.channel
    | none => throw ⟨.notFound, how.creates⟩
  | none => openNamed p
where
  opened (m : Machine) (c : Channel) : Nat × Machine :=
    let reads := how = .input || how = .both
    let (n, shared) := m.shared.addStream ⟨c, reads, how != .input, how = .append, 0⟩
    (n, { m with shared })
  openNamed (p : Octets) : Except Refusal (Nat × Machine) := do
    let exclusive := how = .output && m.isOn .noclobber
    let there? := m.stat? p
    if exclusive && there?.any fun n => (n matches .file ..) then throw ⟨.alreadyThere, true⟩
    if exclusive && there?.isNone && m.stands p then throw ⟨.alreadyThere, true⟩
    let creating := how.creates && !(exclusive && there?.isSome)
    let refuse {α : Type} (f : Fault) : Except Refusal α := throw ⟨f, creating⟩
    let place :=
      if how = .input then m.files.find m.here (path p) else m.files.target m.here (path p)
    match place with
    | .error f => refuse f
    | .ok loc =>
      let reads := how = .input || how = .both
      if reads && there?.isSome && !m.files.permits loc .read then refuse .permissionDenied
      match m.files.node? loc with
      | some (.device .terminal) => refuse .noDevice
      | some (.device d) => return opened m (.device d)
      | node? =>
        if how = .input then return opened m (.file loc)
        let keeps := how = .both || how = .append
        let node := match node? with
          | some (.file mode content) => .file mode (if keeps then content else [])
          | _ => .file (0o666 &&& (0o777 ^^^ (m.mask &&& 0o777))) []
        let files := m.files.put loc node
        return opened { m with shared := { m.shared with files } } (.file loc)

end Machine

namespace Step

def expandText (man : Manner) (w : Word) : Step Octets := do
  return Grain.text (← expand man false w)

def expandFields (w : Word) : Step (List Octets) := do
  let gs ← expand .field false w
  let m ← get
  return (Grain.fields m.separators none gs).flatMap m.unfold

def expandAll (ws : List Word) : Step (List Octets) := do
  return (← ws.mapM expandFields).flatten

def route (r : Redirect) : Step Route := do
  match r with
  | .file d how name => return .file d how (← expandText .text name)
  | .copy d source => return .copy d source
  | .copyNamed d w =>
    match ← expandText .text w with
    | ['-'] => return .copy d none
    | [c] => if c.isDigit then return .copy d (some (Numeral.digit c))
    | _ => pure ()
    failReading Flaw.descriptor.describe
  | .document d number =>
    return .document d (((← get).documents.lookup number).getD ⟨true, []⟩)

/-- Redirect one descriptor. If it is to be restored later, it is put aside first, and is missing if
there is nothing to take its place. -/
def redirect (restorable : Bool) (r : Route) : Step Unit := do
  match r with
  | .file d how name =>
    match (← get).openFile how name with
    | .ok (n, m) => set (m.putStream d n)
    | .error refusal => fail (refusal.describe name)
  | .copy d none => modify (·.closeDescriptor d)
  | .copy d (some source) =>
    if d = source then return
    match (← get).stream? source with
    | some n => modify (·.putStream d n)
    | none =>
      if restorable then modify (·.closeDescriptor d)
      fail (decimal source ++ ": Bad file descriptor".toList)
  | .document d doc =>
    let text ← if doc.literal then pure doc.text.characters
      else expandText .document doc.text
    modify fun m =>
      let (reading, _, shared) := m.shared.addPipe text
      { m with shared }.putStream d reading

/-- Redirect, and tell whether that was possible. -/
def redirectAll (rs : List Route) : Step Bool := do
  try
    for r in rs do redirect true r
    return true
  catch
    | .fault => do
      done 2
      return false
    | l => throw l

/-- Carry out an action that may give descriptors other streams. Those that they have are kept open
beside them, and given back. -/
def restoring (rs : List Route) (act : Step Unit) : Step Unit := do
  let before ← get
  let kept := rs.filterMap fun r => before.stream? r.descriptor
  set { before with spare := kept ++ before.spare }
  ensuring act (modify fun m =>
    let m := rs.foldl (fun m r =>
      match before.stream? r.descriptor with
      | some n => m.putStream r.descriptor n
      | none => m.closeDescriptor r.descriptor) m
    { m with spare := before.spare })

end Step

end GuidedShell.Script
