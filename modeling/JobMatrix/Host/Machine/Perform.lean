import JobMatrix.Host.Machine.Scene
import JobMatrix.Host.Program.Basic

/-! How a machine carries out the work of a program. -/

namespace JobMatrix.Scene

open Program (Work View Order Child)

def viewFor (sc : Scene) (env : Env) : View :=
  { tree := sc.machine.tree, cwd := sc.self.cwd, env, now := sc.machine.now, id := sc.self.id
    parent := sc.self.parent, group := sc.self.group, umask := sc.self.umask
    descriptors := sc.self.descriptors
    fileAt := fun n => match sc.descriptor? n with
      | some (.file handle) => (Dict.get? sc.machine.handles handle).map (·.place)
      | _ => none }

/-- Whether a process keeps all that comes through a pipe, which then has its own number there. -/
def isCollected (sc : Scene) (id : Nat) : Bool :=
  (sc.self :: sc.machine.processes).any fun p => (Dict.get? p.descriptors id).isSome

def isCrowded (sc : Scene) : Bool :=
  match sc.descriptor? 1 with
  | some (.pipe id true) =>
    let size := ((Dict.get? sc.machine.pipes id).getD []).length
    Program.blockSize ≤ size && sc.isRead id &&
      (!sc.isCollected id || 32 * Program.blockSize ≤ size)
  | _ => false

/-- How much output is kept before it is written, and how long writing that takes. -/
def bufferLimit : Nat := 4096

def flushTime : Nat := 1000 * 1000

def flush (sc : Scene) (out : Buffer) : Scene × Option SystemError :=
  sc.write 1 out.chunks.reverse.flatten

def conclude (sc : Scene) (w : Worker) (code : Nat) : Scene :=
  match sc.flush w.out with
  | (sc, none) => if sc.next.isSome then sc else sc.quit (.code (code % 256))
  | (sc, some e) =>
    (sc.mutter (w.name ++ ": write error: " ++ e.reason)).quit (.code (max 1 (code % 256)))

def launchChild (sc : Scene) (o : Order) : Except SystemError (Child × Scene) := do
  let image ← Image.find sc.machine.tree sc.self.cwd o.env o.words
  let (id, m) := sc.machine.fresh
  let (input, m) := match o.input with
    | .same => (none, m)
    | .nothing => (some Descriptor.null, m)
    | .given data =>
      let (pipe, m) := m.fresh
      (some (.pipe pipe false), { m with pipes := Dict.put m.pipes pipe data })
  let (pipe, m) := m.fresh
  let own := match input with
    | some d => Dict.put sc.self.descriptors 0 d
    | none => sc.self.descriptors
  let (own, m, self) := if o.captured then
      (Dict.put own 1 (.pipe pipe true), { m with pipes := Dict.put m.pipes pipe [] },
        { sc.self with descriptors := Dict.put sc.self.descriptors pipe (.pipe pipe false) })
    else (own, m, sc.self)
  let child : Process :=
    { id, parent := sc.self.id, group := sc.self.group, due := m.clock + startTime
      descriptors := own, cwd := sc.self.cwd, ignores := sc.self.ignores, umask := sc.self.umask
      body := .program image.program image.words o.env }
  return ({ id, pipe := if o.captured then some pipe else none },
    { sc with machine := m.add child, self })

def isFinished (m : Machine) (child : Child) : Bool :=
  !m.isLive child.id && child.pipe.elim true fun pipe => !m.isWritten pipe

def takeLeave (sc : Scene) (child : Child) : (Ending × List UInt8) × Scene :=
  let ending := (sc.machine.ending? child.id).getD (.code 127)
  let m := sc.machine.forget child.id
  match child.pipe with
  | none => ((ending, []), { sc with machine := m })
  | some pipe =>
    ((ending, (Dict.get? m.pipes pipe).getD []),
      { sc with
        machine := { m with pipes := Dict.erase m.pipes pipe }
        self := { sc.self with descriptors := Dict.erase sc.self.descriptors pipe } })

def rest (sc : Scene) (w : Worker) (delay : Nat := 0) : Scene :=
  { sc with next := some (.working w), delay }

def giveBack (sc : Scene) (descriptor n : Nat) : Scene :=
  match sc.descriptor? descriptor with
  | some (.file handle) =>
    match Dict.get? sc.machine.handles handle with
    | some h =>
      let handles := Dict.put sc.machine.handles handle { h with offset := h.offset - n }
      { sc with machine := { sc.machine with handles } }
    | none => sc
  | _ => sc

def carryOn (sc : Scene) (name : String) (env : Env) (out : Buffer) : Work Nat → Scene
  | .done code => sc.conclude { name, env, out, work := .done code } code
  | .look k => carryOn sc name env out (k (sc.viewFor env))
  | .change tree k =>
    carryOn { sc with machine := { sc.machine with tree } } name env out (k ())
  | .print data k =>
    let out : Buffer := { chunks := data :: out.chunks, size := out.size + data.length }
    if out.size < bufferLimit then carryOn sc name env out (k ())
    else if sc.isCrowded then sc.rest { name, env, out, work := .print [] k } flushTime
    else
      let (sc, e) := sc.flush out
      if sc.next.isSome then sc
      else match e with
        | none => sc.rest { name, env, work := .look fun _ => k () } flushTime
        | some _ => sc.conclude { name, env, out, work := .done 1 } 1
  | .write descriptor data k =>
    let (sc, early) := if descriptor == 1 then sc.flush out else (sc, none)
    let out := if descriptor == 1 then {} else out
    let (sc, e) := sc.write descriptor data
    if sc.next.isSome then sc else carryOn sc name env out (k (early <|> e))
  | .await descriptor enough k =>
    match sc.descriptor? descriptor with
    | none => carryOn sc name env out (k [])
    | some d =>
      let data := sc.machine.ahead d
      match enough data with
      | some n =>
        let taken := data.take n
        carryOn { sc with machine := sc.machine.skip d taken.length } name env out (k taken)
      | none =>
        if sc.machine.isComplete d then
          carryOn { sc with machine := sc.machine.skip d data.length } name env out (k data)
        else sc.rest { name, env, out, work := .await descriptor enough k }
  | .unread descriptor n k => carryOn (sc.giveBack descriptor n) name env out (k ())
  | .pause time k =>
    sc.rest { name, env, out, work := .look fun _ => k () } time
  | .start o k =>
    let (sc, _) := sc.flush out
    match sc.launchChild o with
    | .ok (child, sc) => carryOn sc name env {} (k (.ok child))
    | .error e => carryOn sc name env {} (k (.error e))
  | .wait child deadline k =>
    if isFinished sc.machine child then
      let (ending, sc) := sc.takeLeave child
      carryOn sc name env out (k (some ending))
    else if deadline.elim false (· ≤ sc.machine.now) then carryOn sc name env out (k none)
    else sc.rest { name, env, out, work := .wait child deadline k }
  | .become words env' k =>
    match Image.find sc.machine.tree sc.self.cwd env' words with
    | .ok i => { sc with next := some (.program i.program i.words env'), delay := stepTime }
    | .error e => carryOn sc name env out (k e)
  | .signal n target k =>
    let (sc, found) := sc.signal n target
    if sc.next.isSome then sc else carryOn sc name env out (k found)
  | .ignore n k =>
    carryOn { sc with self := { sc.self with ignores := n :: sc.self.ignores } } name env out (k ())
  | .enter place k =>
    carryOn { sc with self := { sc.self with cwd := place } } name env out (k ())
  | .lead k =>
    carryOn { sc with self := { sc.self with group := sc.self.id } } name env out (k ())

end JobMatrix.Scene
