import JobMatrix.Host.Program.Work
import JobMatrix.Host.Shell.State

/-! A machine that runs processes: the file tree, a clock in nanoseconds, pipes, open files, and the
streams that are kept for those who started processes. -/

namespace JobMatrix

open JobMatrix.Path (Place)

structure Handle where
  place : Place
  offset : Nat := 0
  append : Bool := false
deriving Repr, Inhabited

/-- Output that is yet to be written: its parts, the latest first, and their size. -/
structure Buffer where
  chunks : List (List UInt8) := []
  size : Nat := 0
deriving Inhabited

structure Worker where
  name : String
  env : Env
  out : Buffer := {}
  work : Program.Work Nat

inductive Body where
  | shell (sh : Shell.Interpreter)
  /-- A program that is about to start. -/
  | program (name : String) (words : List String) (env : Env)
  | working (w : Worker)
  | ended (e : Ending)
deriving Inhabited

structure Process where
  id : Nat
  parent : Nat := 0
  group : Nat
  /-- When it acts next. -/
  due : Nat
  descriptors : Descriptors
  cwd : Place
  /-- The signals that it ignores. -/
  ignores : List Nat := []
  /-- The permissions that new files do not get. -/
  umask : Nat := 0o022
  body : Body
deriving Inhabited

namespace Process

def ending? (p : Process) : Option Ending :=
  match p.body with
  | .ended e => some e
  | _ => none

def isOver (p : Process) : Bool := p.ending?.isSome

def holds (p : Process) (fits : Descriptor → Bool) : Bool :=
  p.descriptors.any (fun d => fits d.2) ||
    match p.body with
    | .shell sh => sh.stack.any fun f => match f with
      | .restore ds => ds.any fun d => fits d.2
      | _ => false
    | _ => false

end Process

/-- A stream that is kept: its parts, the latest first, and what of it is yet to be shown, if it is
shown. -/
structure Stream where
  chunks : List (List UInt8) := []
  shows : Bool := false
  waiting : List UInt8 := []
deriving Inhabited

def Stream.content (s : Stream) : List UInt8 := s.chunks.reverse.flatten

structure Machine where
  tree : FileTree := {}
  clock : Nat := 0
  processes : List Process := []
  pipes : Dict Nat (List UInt8) := []
  handles : Dict Nat Handle := []
  streams : Dict Nat Stream := []
  /-- Texts that have been shown since they were last taken, the latest first. -/
  shown : List String := []
  lastId : Nat := 1000
deriving Inhabited

namespace Machine

def fresh (m : Machine) : Nat × Machine := (m.lastId + 1, { m with lastId := m.lastId + 1 })

def process? (m : Machine) (id : Nat) : Option Process := m.processes.find? (·.id == id)

def update (m : Machine) (p : Process) : Machine :=
  { m with processes := m.processes.map fun q => if q.id == p.id then p else q }

def add (m : Machine) (p : Process) : Machine := { m with processes := m.processes ++ [p] }

def forget (m : Machine) (id : Nat) : Machine :=
  { m with processes := m.processes.filter (·.id != id) }

def isLive (m : Machine) (id : Nat) : Bool :=
  match m.process? id with
  | some p => !p.isOver
  | none => false

def ending? (m : Machine) (id : Nat) : Option Ending := (m.process? id).bind (·.ending?)

def isHeld (m : Machine) (fits : Descriptor → Bool) : Bool := m.processes.any (·.holds fits)

def isWritten (m : Machine) (pipe : Nat) : Bool := m.isHeld (· == .pipe pipe true)

def splice (content : List UInt8) (offset : Nat) (data : List UInt8) : List UInt8 :=
  if offset == content.length then content ++ data
  else content.take offset ++ List.replicate (offset - content.length) 0 ++ data ++
    content.drop (offset + data.length)

def splitLines (data : List UInt8) : List UInt8 × List UInt8 :=
  let rest := (data.reverse.takeWhile (· != 10)).reverse
  (data.take (data.length - rest.length), rest)

def writeStream (m : Machine) (id : Nat) (data : List UInt8) : Machine :=
  match Dict.get? m.streams id with
  | none => m
  | some s =>
    let s := { s with chunks := data :: s.chunks }
    if s.shows then
      let (lines, rest) := splitLines (s.waiting ++ data)
      { m with
        streams := Dict.put m.streams id { s with waiting := rest }
        shown := if lines.isEmpty then m.shown else Text.readText lines :: m.shown }
    else { m with streams := Dict.put m.streams id s }

def closeStream (m : Machine) (id : Nat) : List UInt8 × Machine :=
  match Dict.get? m.streams id with
  | none => ([], m)
  | some s =>
    (s.content,
      { m with
        streams := Dict.erase m.streams id
        shown := if s.waiting.isEmpty then m.shown else Text.readText s.waiting :: m.shown })

def epoch : Nat := 1767225600 * 10 ^ 9

def now (m : Machine) : Nat := epoch + m.clock

def writeFile (m : Machine) (handle : Nat) (data : List UInt8) : Machine :=
  match Dict.get? m.handles handle with
  | none => m
  | some h =>
    match m.tree.entry? h.place with
    | some e =>
      match e.kind with
      | .file content =>
        let offset := if h.append then content.length else h.offset
        let tree := m.tree.put h.place
          { e with kind := .file (splice content offset data), time := m.now }
        { m with
          tree
          handles := Dict.put m.handles handle { h with offset := offset + data.length } }
      | _ => m
    | none => m

def write (m : Machine) (d : Descriptor) (data : List UInt8) : Machine :=
  if data.isEmpty then m
  else match d with
    | .null => m
    | .zero => m
    | .full => m
    | .stream id => m.writeStream id data
    | .pipe id _ => { m with pipes := Dict.put m.pipes id ((Dict.get? m.pipes id).getD [] ++ data) }
    | .file handle => m.writeFile handle data

def ahead (m : Machine) : Descriptor → List UInt8
  | .null => []
  | .zero => List.replicate 65536 0
  | .full => List.replicate 65536 0
  | .stream _ => []
  | .pipe id _ => (Dict.get? m.pipes id).getD []
  | .file handle =>
    match Dict.get? m.handles handle with
    | none => []
    | some h =>
      match (m.tree.entry? h.place).map Entry.content with
      | some (.ok content) => content.drop h.offset
      | _ => []

def skip (m : Machine) (d : Descriptor) (n : Nat) : Machine :=
  match d with
  | .pipe id _ => { m with pipes := Dict.put m.pipes id (((Dict.get? m.pipes id).getD []).drop n) }
  | .file handle =>
    match Dict.get? m.handles handle with
    | none => m
    | some h => { m with handles := Dict.put m.handles handle { h with offset := h.offset + n } }
  | _ => m

def isComplete (m : Machine) : Descriptor → Bool
  | .pipe id _ => !m.isWritten id
  | .zero => false
  | .full => false
  | _ => true

def openDevice (p : Process) : Device → Except SystemError Descriptor
  | .null => .ok .null
  | .zero => .ok .zero
  | .random => .ok .zero
  | .full => .ok .full
  | .terminal => .error .noDevice
  | .descriptor n =>
    match Dict.get? p.descriptors n with
    | some d => .ok d
    | none => .error .noEntry

def openFile (m : Machine) (self : Process) (path : String) (kind : Shell.RedirectKind) :
    Except SystemError (Descriptor × Machine) := do
  let handleOf (place : Place) (append : Bool) (m : Machine) : Descriptor × Machine :=
    let (id, m) := m.fresh
    (.file id, { m with handles := Dict.put m.handles id { place, append } })
  if path.isEmpty then throw .noEntry
  let reads := kind == .read
  let place ← m.tree.locate self.cwd (.ofText path)
  match m.tree.entry? place with
  | some e =>
    if path.endsWith "/" && !e.isDirectory then throw .notDirectory
    match e.kind with
    | .device d => return (← openDevice self d, m)
    | .directory => if reads then return handleOf place false m else throw .isDirectory
    | .file _ =>
      if kind == .write || kind == .overwrite then
        return handleOf place false { m with tree := m.tree.refill place [] m.now }
      else return handleOf place (kind == .append) m
    | _ => return handleOf place (kind == .append) m
  | none =>
    m.tree.opening place.dropLast
    if reads then throw .noEntry
    if path.endsWith "/" then throw .isDirectory
    let mode := 0o666 - (0o666 &&& self.umask)
    return handleOf place (kind == .append) { m with tree := m.tree.refill place [] m.now mode }

/-- Ends a process. Children that have ended are forgotten with it, and it is forgotten itself if
nobody waits for it. -/
def finish (m : Machine) (id : Nat) (e : Ending) : Machine :=
  match m.process? id with
  | none => m
  | some p =>
    let m := m.update { p with body := .ended e, descriptors := [] }
    let m := { m with processes := m.processes.filter fun q => !(q.parent == id && q.isOver) }
    if p.parent == 0 || m.isLive p.parent then m else m.forget id

def signal (m : Machine) (n : Nat) (p : Process) : Machine :=
  let fallback := if Signal.harmless.contains n || n == 0 then m else m.finish p.id (.signal n)
  if p.isOver then m
  else if n == Signal.kill then m.finish p.id (.signal n)
  else if p.ignores.contains n then m
  else match p.body with
    | .shell sh =>
      match (Signal.title? n).bind (Dict.get? sh.traps) with
      | some _ =>
        m.update { p with body := .shell { sh with signals := sh.signals ++ [n] } }
      | none => fallback
    | _ => fallback

def groupOf (m : Machine) (group : Nat) : List Process :=
  m.processes.filter fun p => p.group == group && !p.isOver

def killGroup (m : Machine) (group : Nat) : Machine :=
  (m.groupOf group).foldl (fun m p => m.finish p.id (.signal Signal.kill)) m

end Machine

end JobMatrix
