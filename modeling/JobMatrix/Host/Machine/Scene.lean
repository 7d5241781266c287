import JobMatrix.Host.Machine.Basic
import JobMatrix.Host.Machine.Image

/-! A shell at work: the machine, the process that acts, and the state of its shell. -/

namespace JobMatrix

open JobMatrix.Path (Place)
open Shell (Interpreter Frame Script Word Redirect Scope Variable Expansion)

/-- A machine in which the shell of one process acts. `next` is set once the process goes on as
something else. -/
structure Scene where
  machine : Machine
  self : Process
  sh : Interpreter
  next : Option Body := none
  /-- How long it takes until the process goes on as something else. -/
  delay : Nat := 0

namespace Scene

def stepTime : Nat := 10 * 1000

def forkTime : Nat := 300 * 1000

def startTime : Nat := 1000 * 1000

def withStatus (sc : Scene) (status : Nat) : Scene := { sc with sh := sc.sh.withStatus status }

def status (sc : Scene) : Nat := sc.sh.status

def push (sc : Scene) (frames : List Frame) : Scene := { sc with sh := sc.sh.push frames }

def setStack (sc : Scene) (stack : List Frame) : Scene := { sc with sh := { sc.sh with stack } }

def mapScope (sc : Scene) (f : Scope → Scope) : Scene :=
  { sc with sh := { sc.sh with scope := f sc.sh.scope } }

def quit (sc : Scene) (e : Ending) : Scene := { sc with next := some (.ended e) }

def descriptor? (sc : Scene) (n : Nat) : Option Descriptor := Dict.get? sc.self.descriptors n

def isRead (sc : Scene) (pipe : Nat) : Bool :=
  let fits (d : Descriptor) : Bool := d == .pipe pipe false
  sc.self.holds fits || sc.machine.processes.any fun p => p.id != sc.self.id && p.holds fits

/-- Writes to a descriptor, or says why that is not possible. A pipe without readers ends the
process. -/
def write (sc : Scene) (n : Nat) (data : List UInt8) : Scene × Option SystemError :=
  if data.isEmpty then (sc, none)
  else match sc.descriptor? n with
    | none => (sc, some .badDescriptor)
    | some .full => (sc, some .noSpace)
    | some (.pipe _ false) => (sc, some .badDescriptor)
    | some (.pipe id true) =>
      if sc.isRead id then ({ sc with machine := sc.machine.write (.pipe id true) data }, none)
      else if sc.self.ignores.contains Signal.brokenPipe then (sc, some .brokenPipe)
      else (sc.quit (.signal Signal.brokenPipe), none)
    | some d => ({ sc with machine := sc.machine.write d data }, none)

def print (sc : Scene) (text : String) : Scene := (sc.write 1 (Octets.ofText text)).1

def mutter (sc : Scene) (text : String) : Scene := (sc.write 2 (Octets.ofText (text ++ "\n"))).1

def complainAbout (sc : Scene) (command : Option String) (text : String) : Scene :=
  let about := command.elim "" (· ++ ": ")
  sc.mutter (s!"{sc.sh.scope.name}: {sc.sh.line}: " ++ about ++ text)

def complain (sc : Scene) (text : String) : Scene := sc.complainAbout sc.sh.command text

/-- Ends the shell; an action for its end runs first. -/
def leave (sc : Scene) (status : Nat) : Scene :=
  match Dict.get? sc.sh.traps "EXIT" with
  | some action =>
    let sh := { sc.sh with
      traps := Dict.erase sc.sh.traps "EXIT"
      stack := [.source { rest := action.toList }, .resume status, .leave] }
    { sc with sh := sh.withStatus status }
  | none => sc.quit (.code (status % 256))

def fail (sc : Scene) (text : String) : Scene := (sc.complain text).leave 2

def expand {α : Type} (sc : Scene) (outputs : List String) (e : Expansion α) :
    Except Shell.Halt (α × Scene) :=
  match e.run { scope := sc.sh.scope, outputs } with
  | .ok (a, stage) => .ok (a, sc.mapScope fun _ => stage.scope)
  | .error h => .error h

def refusal (creates : Bool) (path : String) (e : SystemError) : String :=
  let why := match e with
    | .noEntry => if creates then "Directory nonexistent" else "No such file"
    | .notDirectory => if creates then "Directory nonexistent" else "No such file"
    | e => e.reason
  (if creates then "cannot create " else "cannot open ") ++ path ++ ": " ++ why

def setDescriptor (sc : Scene) (n : Nat) (d : Descriptor) : Scene :=
  { sc with self := { sc.self with descriptors := Dict.put sc.self.descriptors n d } }

structure Redirection where
  descriptor : Nat
  kind : Shell.RedirectKind
  target : String

def redirections : List Redirect → Expansion (List Redirection)
  | [] => return []
  | r :: rest => do
    let target ← Shell.wordText r.target
    if r.kind == .copy && target != "-" &&
        !(target.length == 1 && target.toList.all Char.isDigit) then
      Expansion.refuse "Syntax error: Bad fd number"
    return ⟨r.descriptor, r.kind, target⟩ :: (← redirections rest)

def isKept (sc : Scene) (r : Redirection) : Bool :=
  r.kind == .write && sc.sh.has "noclobber" &&
    match sc.machine.tree.lookup sc.self.cwd (.ofText r.target) with
    | .ok (_, e) => e.isRegular
    | .error _ => false

def redirect (sc : Scene) (r : Redirection) : Except String Scene := do
  match r.kind with
  | .here =>
    let (id, m) := sc.machine.fresh
    let m := { m with pipes := Dict.put m.pipes id (Octets.ofText r.target) }
    return { sc with machine := m }.setDescriptor r.descriptor (.pipe id false)
  | .copy =>
    match r.target.toNat? with
    | none =>
      let descriptors := Dict.erase sc.self.descriptors r.descriptor
      return { sc with self := { sc.self with descriptors } }
    | some n =>
      match sc.descriptor? n with
      | some d => return sc.setDescriptor r.descriptor d
      | none => throw s!"{n}: Bad file descriptor"
  | kind =>
    if sc.isKept r then throw (refusal true r.target .alreadyThere)
    match sc.machine.openFile sc.self r.target kind with
    | .ok (d, machine) => return { sc with machine }.setDescriptor r.descriptor d
    | .error e => throw (refusal (kind != .read) r.target e)

def redirectAll (sc : Scene) (rs : List Redirection) : Except String Scene := rs.foldlM redirect sc

def fork (sc : Scene) (frames : List Frame) (descriptors : Descriptors) : Nat × Scene :=
  let (id, m) := sc.machine.fresh
  let child : Process :=
    { id, parent := sc.self.id, group := sc.self.group, due := m.clock + forkTime, descriptors
      cwd := sc.self.cwd, ignores := sc.self.ignores, umask := sc.self.umask
      body := .shell (sc.sh.child frames) }
  (id, { sc with machine := m.add child })

/-- Frees the place of a job that has ended and has been waited for, which a new child takes. -/
def makeRoom (sc : Scene) : Scene :=
  let old := (sc.sh.jobs.filter fun j => j.known && j.waited).foldl
    (fun (best : Option Shell.Job) j =>
      match best with
      | some b => if b.number < j.number then best else some j
      | none => some j) none
  match old with
  | some j =>
    { sc with
      machine := sc.machine.forget j.id
      sh := { sc.sh with jobs := sc.sh.jobs.filter (·.number != j.number) } }
  | none => sc

def noticeJobs (sc : Scene) : Scene :=
  let jobs := sc.sh.jobs.map fun j => { j with known := j.known || !sc.machine.isLive j.id }
  { sc with sh := { sc.sh with jobs } }

def trapFor? (sc : Scene) (n : Nat) : Option String :=
  (Signal.title? n).bind (Dict.get? sc.sh.traps)

def signalSelf (sc : Scene) (n : Nat) : Scene :=
  if n == Signal.kill then sc.quit (.signal n)
  else if n == 0 || sc.self.ignores.contains n then sc
  else if (sc.trapFor? n).isSome then
    { sc with sh := { sc.sh with signals := sc.sh.signals ++ [n] } }
  else if Signal.harmless.contains n then sc
  else sc.quit (.signal n)

/-- Sends a signal to a process or, below zero, to a group; false if there is none. -/
def signal (sc : Scene) (n : Nat) (target : Int) : Scene × Bool :=
  if target ≤ 0 then
    let group := if target == 0 then sc.self.group else target.natAbs
    let members := sc.machine.groupOf group
    let m := (members.filter (·.id != sc.self.id)).foldl (fun m p => m.signal n p) sc.machine
    let sc := { sc with machine := m }
    (if sc.self.group == group then sc.signalSelf n else sc, !members.isEmpty)
  else if target == sc.self.id then (sc.signalSelf n, true)
  else match sc.machine.process? target.toNat with
    | some p => ({ sc with machine := sc.machine.signal n p }, true)
    | none => (sc, false)

def revert (sc : Scene) (vars : List (String × Option Variable)) : Scene :=
  sc.mapScope fun s => { s with vars := vars.foldl (fun vs v =>
    match v.2 with
    | some old => Dict.put vs v.1 old
    | none => Dict.erase vs v.1) s.vars }

def undo (sc : Scene) : Frame → Scene
  | .restore descriptors => { sc with self := { sc.self with descriptors } }
  | .named command => { sc with sh := { sc.sh with command } }
  | .revert vars => sc.revert vars
  | .call args vars nextOption =>
    let sc := (sc.revert vars).mapScope fun s => { s with args }
    { sc with sh := { sc.sh with nextOption } }
  | _ => sc

def dropFrames (sc : Scene) (n : Nat) : Scene :=
  let sc' := (sc.sh.stack.take n).foldl undo sc
  sc'.setStack (sc.sh.stack.drop n)

/-- The position of the `n`th loop on the stack within the present function. -/
def loopAt? (n : Nat) : List Frame → Option Nat
  | [] => none
  | f :: rest =>
    if f.isCall then none
    else if f.isLoop then
      if n ≤ 1 then some 0 else (loopAt? (n - 1) rest).map (· + 1) <|> some 0
    else (loopAt? n rest).map (· + 1)

/-- Leaves `n` loops, or goes on with the next round of the `n`th. -/
def leaveLoop (sc : Scene) (n : Nat) (continues : Bool) : Scene :=
  match loopAt? n sc.sh.stack with
  | none => sc.withStatus 0
  | some k =>
    let sc := (sc.dropFrames k).withStatus 0
    if !continues then sc.dropFrames 1
    else match sc.sh.stack with
      | .tested u test body _ :: rest => sc.setStack (.looped u test body :: rest)
      | _ => sc

def returnWith (sc : Scene) (status : Nat) : Scene :=
  match sc.sh.stack.findIdx? Frame.isCall with
  | some k => (sc.dropFrames (k + 1)).withStatus status
  | none => sc.leave status

def setVariable (sc : Scene) (name value : String) : Except String Scene := do
  let scope ← sc.sh.scope.assign name value
  let sc := sc.mapScope fun _ => scope
  return if name == "OPTIND" then
      { sc with sh := { sc.sh with nextOption := (max 1 (value.toNat?.getD 1), none) } }
    else sc

end Scene

end JobMatrix
