import GuidedShell.FileSystem.Build
import GuidedShell.Script.Runner

/-! What processes share: files, the streams that they read and write, signals on their way, and
that they know of each other. -/
namespace GuidedShell.Script

/-- Where a stream comes from and goes to. -/
inductive Channel where
  | file (loc : Location)
  | pipe (number : Nat)
  | device (d : Device)
  deriving DecidableEq

/-- A file or a pipe that has been opened, and how far it has been read or written. -/
structure Stream where
  channel : Channel
  readable : Bool
  writable : Bool
  /-- Everything is written at the end. -/
  append : Bool
  offset : Nat

/-- What has been written into a pipe and not been read: texts in their order, and after them those
that came later, last one first. -/
structure Pipe where
  front : Octets
  back : List Octets
  size : Nat
  /-- Somebody takes out of it whatever comes. -/
  drained : Bool

namespace Pipe

def empty (drained : Bool) : Pipe := ⟨[], [], 0, drained⟩

/-- How much fits into a pipe. -/
def capacity : Nat := 65536

def content (p : Pipe) : Octets :=
  if p.back.isEmpty then p.front else p.front ++ p.back.reverse.flatten

def isFull (p : Pipe) : Bool := !p.drained && capacity ≤ p.size

def push (p : Pipe) (cs : Octets) : Pipe :=
  { p with back := cs :: p.back, size := p.size + cs.length }

end Pipe

/-- What is known of a process: the one that has started it, the streams that it had open when
others last had their turn, and how it has ended. -/
structure Member where
  process : Nat
  parent : Nat
  held : List Nat
  ending : Option Ending

structure Shared where
  files : FileSystem
  streams : Array Stream
  pipes : Array Pipe
  /-- The number of the next process. -/
  nextProcess : Nat
  members : List Member
  /-- Processes that have yet to begin, oldest first. -/
  newborn : List (Runner × Mission)
  /-- Processes that have been stopped for the time being. -/
  stopped : List Nat
  /-- Signals on their way, each with the process it is meant for. -/
  posted : List (Nat × Nat)

/-- What becomes of something that is written. -/
inductive Receipt where
  /-- It is written but for a rest. -/
  | taken (s : Shared) (rest : Octets)
  | refused
  /-- There is no room for now. -/
  | full
  /-- Nobody is left to read it. -/
  | broken
  /-- The file would become larger than it may. -/
  | tooLarge

/-- The process that asks for scripts. Processes with lower numbers are none of the scripts'. -/
def launcher : Nat := 1000

namespace Shared

def empty : Shared := ⟨.empty, #[], #[], 0, [], [], [], []⟩

def addStream (s : Shared) (stream : Stream) : Nat × Shared :=
  (s.streams.size, { s with streams := s.streams.push stream })

/-- A new pipe that holds some text, with the stream to read from it and the stream to write to
it. -/
def addPipe (s : Shared) (cs : Octets) : Nat × Nat × Shared :=
  let channel := Channel.pipe s.pipes.size
  let s := { s with pipes := s.pipes.push ((Pipe.empty false).push cs) }
  let (reading, s) := s.addStream ⟨channel, true, false, false, 0⟩
  let (writing, s) := s.addStream ⟨channel, false, true, false, 0⟩
  (reading, writing, s)

def note (s : Shared) (process : Nat) (held : List Nat) : Shared :=
  { s with members := s.members.map fun e => if e.process = process then { e with held } else e }

/-- Some process has an end of a pipe open, the one to write to or the one to read from. -/
def isHeld (s : Shared) (pipe : Nat) (writing : Bool) : Bool :=
  s.members.any fun e => e.held.any fun n =>
    match s.streams[n]? with
    | some t => t.channel = .pipe pipe && if writing then t.writable else t.readable
    | none => false

/-- Content with some of it replaced from a place on. A gap is filled with zeros. -/
def overwrite (content : Bytes) (offset : Nat) (new : Bytes) : Bytes :=
  content.take offset ++ List.replicate (offset - content.length) 0 ++ new ++
    content.drop (offset + new.length)

/-- Write to a file, of which no more than `limit?` may be there in the end. -/
def writeFile (s : Shared) (number : Nat) (stream : Stream) (loc : Location) (limit? : Option Nat)
    (cs : Octets) : Receipt :=
  match s.files.node? loc with
  | some (.file mode content) =>
    let start := if stream.append then content.length else stream.offset
    let (now, rest) := match limit? with
      | some limit => cs.splitAt (limit - start)
      | none => (cs, [])
    if now.isEmpty && !cs.isEmpty then .tooLarge
    else
      let new := Octets.toBytes now
      let content := if start = content.length then content ++ new else overwrite content start new
      .taken
        { s with
          files := s.files.put loc (.file mode content)
          streams := s.streams.modify number fun t => { t with offset := start + new.length } }
        rest
  | _ => .taken s []

/-- Write to a stream. -/
def write (s : Shared) (number : Nat) (limit? : Option Nat) (cs : Octets) : Receipt :=
  match s.streams[number]? with
  | none => .refused
  | some stream =>
    if !stream.writable then .refused
    else match stream.channel with
      | .device .full => .refused
      | .device _ => .taken s []
      | .file loc => s.writeFile number stream loc limit? cs
      | .pipe n =>
        let pipe := (s.pipes[n]?).getD (.empty true)
        if pipe.drained then .taken { s with pipes := s.pipes.modify n (·.push cs) } []
        else if !s.isHeld n false then .broken
        else if pipe.isFull then .full
        else
          let (now, rest) := cs.splitAt (Pipe.capacity - pipe.size)
          .taken { s with pipes := s.pipes.modify n (·.push now) } rest

/-- What a stream has left to read. -/
def ahead? (s : Shared) (number : Nat) : Option Octets := do
  let stream ← s.streams[number]?
  if !stream.readable then none
  else match stream.channel with
    | .device _ => some []
    | .pipe n => (s.pipes[n]?).map Pipe.content
    | .file loc =>
      match s.files.node? loc with
      | some (.file _ content) => some (Octets.ofBytes (content.drop stream.offset))
      | _ => none

/-- A stream leads to a pipe of which not everything is taken out at once. -/
def isPipe (s : Shared) (number : Nat) : Bool :=
  match s.streams[number]? with
  | some { channel := .pipe n, .. } => !(s.pipes[n]?).any (·.drained)
  | _ => false

/-- More may come in a stream. -/
def isFed (s : Shared) (number : Nat) : Bool :=
  match s.streams[number]? with
  | some { channel := .pipe n, readable := true, .. } => s.isHeld n true
  | _ => false

/-- How much of a stream is there to be read. -/
def depth (s : Shared) (number : Nat) : Nat :=
  match s.streams[number]? with
  | some { channel := .pipe n, .. } => ((s.pipes[n]?).map (·.size)).getD 0
  | _ => 0

/-- Something that is written to a stream has a chance. -/
def hasRoom (s : Shared) (number : Nat) : Bool :=
  match s.streams[number]? with
  | some { channel := .pipe n, .. } => !s.isHeld n false || !(s.pipes[n]?).any (·.isFull)
  | _ => true

/-- Take away what has been read from a stream, of which `rest` is left. -/
def consume (s : Shared) (number count : Nat) (rest : Octets) : Shared :=
  match s.streams[number]? with
  | none => s
  | some stream =>
    match stream.channel with
    | .pipe n => { s with
        pipes := s.pipes.modify n fun p =>
          { p with front := rest, back := [], size := p.size - count } }
    | _ => { s with
        streams := s.streams.modify number fun t => { t with offset := t.offset + count } }

def member? (s : Shared) (process : Nat) : Option Member :=
  s.members.find? (·.process == process)

def post (s : Shared) (process signal : Nat) : Shared :=
  if process ≤ launcher then s else match signal with
  | 19 => { s with stopped := process :: s.stopped.filter (· != process) }
  | 9 | 18 => { s with
      stopped := s.stopped.filter (· != process)
      posted := s.posted ++ [(process, signal)] }
  | _ => { s with posted := s.posted ++ [(process, signal)] }

/-- The processes that one has started and that have ended, which are now forgotten. -/
def reap (s : Shared) (parent : Nat) : List (Nat × Ending) × Shared :=
  let ended (e : Member) : Bool := e.parent == parent && e.ending.isSome
  let found := s.members.filterMap fun e =>
    if ended e then e.ending.map (e.process, ·) else none
  if found.isEmpty then ([], s) else (found, { s with members := s.members.filter (!ended ·) })

/-- A process has ended. Those that it has started belong to nobody from then on, and what belongs
to nobody is forgotten when it ends. -/
def bury (s : Shared) (process : Nat) (e : Ending) : Shared :=
  let parent := ((s.member? process).map (·.parent)).getD 0
  let members := s.members.filterMap fun m =>
    if m.process = process then
      if parent = 0 then none else some { m with held := [], ending := some e }
    else if m.parent = process then
      if m.ending.isSome then none else some { m with parent := 0 }
    else some m
  { s with members }.post parent 17

end Shared

end GuidedShell.Script
