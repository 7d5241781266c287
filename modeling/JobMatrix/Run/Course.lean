import JobMatrix.Run.Host
import JobMatrix.Run.Pool

/-! The course of a run on a machine. What can happen next in the pool and on the machine is put in
the order of time; each event is one action of the pool or one step of the machine. -/

namespace JobMatrix

/-- What the course knows of a lane: when it acts next, its process, and when that was started. -/
structure Track (M : Type) [Host M] where
  due : Nat := 0
  job : Option (Host.Job M) := none
  began : Nat := 0
deriving Inhabited

/-- Something that is to happen at a set time. -/
structure Timer where
  due : Nat
  interrupts : Bool

structure Course (M : Type) [Host M] where
  executor : Executor
  observer : Option Observer := none
  pool : Pool
  machine : M
  tracks : List (Track M)
  timers : List Timer := []
  /-- When the next instance can be taken. -/
  open' : Nat := 0
  /-- Whether there are workers that take instances, and someone who collects results. -/
  pooled : Bool := true
  /-- The number of notices that were given. -/
  given : Nat := 0
  /-- What was seen, the latest first. -/
  sights : List Sight := []
  attempts : List Attempt := []
  /-- The first thing that the observer has raised and that has passed the guard. -/
  escaped : Option Fault := none

namespace Course

variable {M : Type} [Host M]

def second : Nat := 10 ^ 9

/-- The time between taking two instances, before a look, before a start, and before a result is
collected. -/
def pickTime : Nat := 250 * 1000

def lookTime : Nat := 10 * 1000

def startTime : Nat := 200 * 1000

def collectTime : Nat := 100 * 1000

def now (c : Course M) : Rat := (Host.clock c.machine : Rat) / second

def see (c : Course M) (s : Sight) : Course M := { c with sights := s :: c.sights }

def track (c : Course M) (i : Nat) : Track M := c.tracks[i]?.getD {}

def setTrack (c : Course M) (i : Nat) (t : Track M) : Course M := { c with tracks := c.tracks.set i t }

def watch (c : Course M) : Course M :=
  let (shown, machine) := Host.takeShown c.machine
  { c with sights := shown.map Sight.shown ++ c.sights, machine }

/-- Kills the process of a lane with all that it has started, unless it has ended. -/
def kill (c : Course M) (i : Nat) : Course M :=
  match (c.track i).job with
  | some j =>
    if Host.isLive c.machine j then { c with machine := Host.kill c.machine j } else c
  | none => c

def killRunning (c : Course M) (p : Pool) : Course M :=
  (List.range p.lanes.length).foldl (fun c i =>
    if (p.lanes[i]?).elim false Lane.isRunning then c.kill i else c) c

def cancel (c : Course M) : Course M :=
  let (pool, es) := c.pool.cancelAll
  let c := { c.killRunning c.pool with pool }
  es.foldl (fun c e => match e with | .log e => c.see (.log e) | _ => c) c

def request (c : Course M) : Request → Course M
  | .cancel none => c.cancel
  | .cancel (some delay) =>
    { c with timers := c.timers ++
        [⟨Host.clock c.machine + (delay * (second : Rat)).floor.toNat, false⟩] }
  | .interrupt delay =>
    { c with timers := c.timers ++
        [⟨Host.clock c.machine + (delay * (second : Rat)).floor.toNat, true⟩] }

/-- Tells the observer something; with what passes the guard. -/
def tell (c : Course M) (n : Notice) : Course M × Option Fault :=
  let h := Observer.tell c.observer c.given n
  (h.requests.foldl request (h.sights.foldl see { c with given := c.given + 1 }), h.passed)

def emit (c : Course M) : Emission → Course M × Option Fault
  | .log e => (c.see (.log e), none)
  | .notice n => c.tell n
  | .attempt a => ({ c with attempts := a :: c.attempts }, none)

/-- Ends what an action was about: what has passed the guard breaks the lane in which it was
raised. -/
def abandon (c : Course M) (a : Action) (f : Fault) : Course M :=
  let broken := match a with
    | .lane i _ => c.pool.lanes.modify i ({ · with phase := .broken f })
    | _ => c.pool.lanes
  { c with pool := { c.pool with lanes := broken }, escaped := c.escaped <|> some f }

/-- What is seen of an action, one thing after another, until something passes the guard. -/
def emitAll (a : Action) : List Emission → Course M → Course M
  | [], c => c
  | e :: rest, c =>
    match c.emit e with
    | (c, none) => emitAll a rest c
    | (c, some f) => c.abandon a f

def cancels (before after : Pool) : Action → Bool
  | .cancel => true
  | .interrupt => true
  | .take _ => after.fault.isSome
  | .store => after.cancelled && !before.cancelled
  | _ => false

def perform (c : Course M) (a : Action) : Course M :=
  match c.pool.apply c.executor a with
  | none => c
  | some (pool, es) =>
    let c := if cancels c.pool pool a then c.killRunning c.pool else c
    emitAll a es { c with pool }

def later (c : Course M) (i : Nat) (delay : Nat) : Course M :=
  c.setTrack i { c.track i with due := Host.clock c.machine + delay }

/-- Why a command cannot be handed to the system: it has no words, a variable has an equals sign in
its name, or there is a null byte. -/
def launchFault? (words : List String) (env : Env) : Option Fault :=
  let holdsNull (s : String) : Bool := s.toList.contains '\x00'
  if words.isEmpty then some .emptyCommand
  else if env.any fun v => v.1.toList.contains '=' then some .illegalVariable
  else if words.any holdsNull || env.any fun v => holdsNull v.1 || holdsNull v.2 then some .nullByte
  else none

def prepare (c : Course M) (i : Instance) (s : Step) : Except Launch (Host.Image M) × Context :=
  let context := c.executor.contextFor i s
  let words := s.command.words
  match (Host.tree c.machine).holdsDirectory [] context.cwd with
  | .error e => (.error (.unreadable (.system e context.cwd.text)), context)
  | .ok false => (.error (.noDirectory context.cwd.text), context)
  | .ok true =>
    match launchFault? words context.env with
    | some f => (.error (.broken f), context)
    | none =>
      match Host.find c.machine context words with
      | .ok image => (.ok image, context)
      | .error e => (.error (.refused (e.text (words.headD ""))), context)

def spawn (c : Course M) (i : Nat) (image : Host.Image M) (context : Context) : Course M :=
  let (job, machine) := Host.launch c.machine image context c.executor.showOutput
  let began := Host.clock c.machine
  { c with machine }.setTrack i { c.track i with job := some job, began }

def launch (c : Course M) (i : Nat) : Course M :=
  match c.pool.lanes[i]? with
  | none => c
  | some l =>
    match l.step? with
    | none => c
    | some s =>
      match c.prepare l.subject s with
      | (.error how, _) => (c.perform (.lane i (.launch how))).later i lookTime
      | (.ok image, context) =>
        let c := (c.perform (.lane i (.launch .started))).later i lookTime
        if (c.pool.lanes[i]?).elim false Lane.isRunning then c.spawn i image context else c

/-- Takes what the process of a lane has written, and ends the step. -/
def leave (c : Course M) (i : Nat) : Course M :=
  let t := c.track i
  match t.job with
  | none => c
  | some j =>
    let ((out, err), machine) := Host.collect c.machine j
    let c := watch { c with machine }
    let text (data : List UInt8) : String := Text.tail (Text.unifyBreaks (Text.ofBytes data))
    let duration : Rat := ((Host.clock machine - t.began : Nat) : Rat) / second
    (c.perform (.lane i (.leave (text out) (text err) (.float (.ofRat duration))))).later i
      lookTime

def expiry? (c : Course M) (i : Nat) (limit : Option Limit) : Option Nat :=
  match limit.map Limit.amount with
  | some (.exactly q) => some ((c.track i).began + (q * (second : Rat)).floor.toNat)
  | some .below => some (c.track i).began
  | _ => none

/-- What can happen next. Of events at one time the first in this list comes first. -/
inductive Event where
  | machine
  | exit (i : Nat) (code : Int)
  | leave (i : Nat)
  | timer (t : Timer)
  | expire (i : Nat)
  | look (i : Nat)
  | launch (i : Nat)
  | pick (i : Nat)
  | collect (i : Nat)

def laneEvents (c : Course M) (i : Nat) (l : Lane) : List (Nat × Event) :=
  let t := c.track i
  let clock := Host.clock c.machine
  match l.phase with
  | .queued =>
    if (if c.pooled then c.pool.mayPick c.executor i else c.pool.next? == some i) then
      [(c.open', .pick i)] else []
  | .looking => [(t.due, .look i)]
  | .starting _ => [(t.due, .launch i)]
  | .running limit expired =>
    match t.job.bind (Host.code? c.machine) with
    | some code => [(clock, .exit i code)]
    | none => if expired then [] else (c.expiry? i limit).toList.map fun n => (n, .expire i)
  | .draining .. => if t.job.elim true (Host.isDrained c.machine) then [(clock, .leave i)] else []
  | _ =>
    if c.pooled && c.pool.awaits i then [(t.due + collectTime, .collect i)]
    else []

def events (c : Course M) : List (Nat × Event) :=
  (Host.nextTime? c.machine).toList.map (fun n => (n, .machine)) ++
    (c.timers.map fun t => (t.due, .timer t)) ++
    (List.range c.pool.lanes.length).flatMap fun i =>
      match c.pool.lanes[i]? with
      | some l => c.laneEvents i l
      | none => []

def Event.rank : Event → Nat
  | machine => 0
  | exit .. => 1
  | leave _ => 2
  | timer _ => 3
  | expire _ => 4
  | look _ => 5
  | launch _ => 6
  | pick _ => 7
  | collect _ => 8

def earliest (clock : Nat) (es : List (Nat × Event)) : Option (Nat × Event) :=
  es.foldl (fun best e =>
    let e := (max clock e.1, e.2)
    match best with
    | none => some e
    | some b => if e.1 < b.1 || (e.1 == b.1 && e.2.rank < b.2.rank) then some e else best) none

/-- The order in which events happen: which one comes next and at what time, by the number of events
that may still come, the time, and what can happen. Nothing happens before it can. -/
structure Schedule where
  next : Nat → Nat → List (Nat × Event) → Option (Nat × Event)
  possible : ∀ {n clock : Nat} {es : List (Nat × Event)} {time : Nat} {e : Event},
    next n clock es = some (time, e) → ∃ due, (due, e) ∈ es ∧ max clock due ≤ time

theorem earliest_possible {clock : Nat} {es : List (Nat × Event)} {time : Nat} {e : Event}
    (h : earliest clock es = some (time, e)) : ∃ due, (due, e) ∈ es ∧ max clock due ≤ time := by
  suffices given : ∀ best, es.foldl _ best = some (time, e) →
      best = some (time, e) ∨ ∃ due, (due, e) ∈ es ∧ max clock due ≤ time from
    (given none h).resolve_left nofun
  clear h
  induction es with
  | nil => exact fun best same => .inl same
  | cons f rest ih =>
    intro best h
    rcases ih _ h with same | ⟨due, mem, past⟩
    · have chosen : best = some (time, e) ∨ (max clock f.1, f.2) = (time, e) := by
        revert same
        cases best with
        | none => exact fun same => .inr (Option.some.inj same)
        | some b =>
          dsimp only
          split
          · exact fun same => .inr (Option.some.inj same)
          · exact .inl
      rcases chosen with same | this
      · exact .inl same
      · cases this
        exact .inr ⟨f.1, .head _, Nat.le_refl _⟩
    · exact .inr ⟨due, .tail _ mem, past⟩

def Schedule.earliest : Schedule := ⟨fun _ => Course.earliest, earliest_possible⟩

def occur (c : Course M) (time : Nat) (e : Event) : Course M :=
  let c := { c with machine := Host.withClock c.machine time }
  match e with
  | .machine => watch { c with machine := Host.advance c.machine }
  | .exit i code => (c.perform (.lane i (.exit code))).later i lookTime
  | .leave i => c.leave i
  | .timer t =>
    let c := { c with timers := c.timers.filter fun u => u.due != t.due }
    c.perform (if t.interrupts then .interrupt else .cancel)
  | .expire i => (c.perform (.lane i .expire)).kill i
  | .look i => (c.perform (.lane i (.look c.now))).later i startTime
  | .launch i => c.launch i
  | .pick i =>
    let c := c.perform (.lane i (if c.pooled then .pick c.now else .begin c.now))
    { c.later i lookTime with open' := time + pickTime }
  | .collect i => (c.perform (.take i)).perform .store

def isOver (c : Course M) : Bool :=
  if c.pooled then c.pool.isOver else c.pool.lanes.all Lane.isOver

def run (schedule : Schedule) : Nat → Course M → Course M
  | 0, c => c
  | fuel + 1, c =>
    if c.isOver then c
    else match schedule.next fuel (Host.clock c.machine) c.events with
      | none => c
      | some (time, e) => run schedule fuel (c.occur time e)

def patience : Nat := 10 ^ 8

def seen (c : Course M) : List Sight := c.sights.reverse

def fault? (c : Course M) : Option Fault :=
  c.pool.fault <|> c.pool.lanes.findSome? fun l =>
    match l.phase with
    | .broken f => some f
    | _ => none

/-- The results of the jobs: those that the collector has stored or, where there is none, those of
the lanes themselves. -/
def jobs? (c : Course M) : Option (List JobResult) :=
  if c.pooled then c.pool.results? else c.pool.lanes.mapM Lane.result?

def result (c : Course M) : Except Fault RunResult :=
  match c.fault? <|> c.escaped, c.jobs? with
  | some f, _ => .error f
  | none, some jobs => .ok (c.pool.resultOf jobs)
  | none, none => .error .tooDeep

end Course

section

variable {M : Type} [Host M]

/-- Runs instances on a pool of workers, after notices that were given and requests that were made
before. -/
def Executor.course (x : Executor) (observer : Option Observer) (machine : M)
    (cancelled : Bool) (instances : List Instance) (given : Nat := 0)
    (requests : List Request := []) (schedule : Course.Schedule := .earliest) : Course M :=
  let start : Course M :=
    { executor := x, observer, machine, pool := .ofInstances instances cancelled
      tracks := instances.map fun _ => {}, open' := Host.clock machine, given }
  Course.run schedule Course.patience (requests.foldl Course.request start)

def Executor.courseOf (x : Executor) (observer : Option Observer) (machine : M)
    (cancelled : Bool) (i : Instance) : Course M :=
  Course.run .earliest Course.patience
    { executor := x, observer, machine, pool := .ofInstances [i] cancelled
      tracks := [{}], pooled := false, open' := Host.clock machine }

/-- Runs instances one after another, each by itself, until one meets a fault: their results, what
was seen, and the machine after them. -/
def Executor.oneByOne (x : Executor) (observer : Option Observer) (machine : M)
    (cancelled : Bool) : List Instance → Except Fault (List JobResult) × List Sight × M
  | [] => (.ok [], [], machine)
  | i :: rest =>
    let c := x.courseOf observer machine cancelled i
    match c.result with
    | .error f => (.error f, c.seen, c.machine)
    | .ok r =>
      let (jobs, sights, machine) := x.oneByOne observer c.machine c.pool.cancelled rest
      (jobs.map (r.jobs ++ ·), c.seen ++ sights, machine)

/-- Makes one attempt at a step. The token may be cancelled from the start, or after some
nanoseconds. -/
def Executor.attempt (x : Executor) (machine : M) (cancelled : Bool)
    (cancelAfter : Option Nat) (limit : Option Limit) (s : Step) : Course M :=
  let subject : Instance := { (default : Instance) with steps := [s] }
  Course.run .earliest Course.patience
    { executor := x, machine
      pool := { lanes := [{ subject, phase := .starting limit }], cancelled }
      tracks := [{}], pooled := false
      timers := cancelAfter.toList.map fun n => ⟨Host.clock machine + n, false⟩ }

end

end JobMatrix
