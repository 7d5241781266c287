import JobMatrix.Run.Lane

/-! A run as a transition system. Each instance has a lane; workers take instances in order, one
lane each; a collector takes the results of the lanes as these close, one after another, and stores
each at its position; and a token that all lanes look at says whether the run is cancelled. Actions
happen in any order that `apply` accepts. -/

namespace JobMatrix

/-- What happens in a run. -/
inductive Action where
  | lane (i : Nat) (m : Lane.Move)
  /-- The collector takes what a lane gives. -/
  | take (i : Nat)
  /-- The collector stores the result that it has taken. -/
  | store
  | cancel
  | interrupt

/-- The lanes, the token, and the collector: the result in its hand and its position, the results
that are stored, by position, and the fault that it has met. -/
structure Pool where
  lanes : List Lane
  cancelled : Bool := false
  interrupted : Bool := false
  hand : Option (Nat × JobResult) := none
  stored : Dict Nat JobResult := []
  fault : Option Fault := none

namespace Pool

def ofInstances (instances : List Instance) (cancelled : Bool := false) : Pool :=
  { lanes := instances.map fun i => { subject := i }, cancelled }

def setLane (p : Pool) (i : Nat) (l : Lane) : Pool := { p with lanes := p.lanes.set i l }

def busy (p : Pool) : Nat := (p.lanes.filter Lane.isBusy).length

def next? (p : Pool) : Option Nat := p.lanes.findIdx? Lane.isQueued

def mayPick (x : Executor) (p : Pool) (i : Nat) : Bool :=
  p.next? == some i && p.busy < x.workers p.lanes.length

def withLane (p : Pool) (i : Nat) (r : Lane × List Emission) : Pool × List Emission :=
  (p.setLane i r.1, r.2)

/-- Cancels the run; processes under way are counted. -/
def cancelAll (p : Pool) : Pool × List Emission :=
  let count := (p.lanes.filter Lane.isRunning).length
  ({ p with cancelled := true },
    if count == 0 then []
    else [.say .info .step s!"Cancelling {count} in-flight step process(es)"])

def awaits (p : Pool) (i : Nat) : Bool :=
  p.hand.isNone && p.fault.isNone && !Dict.contains p.stored i

def take (p : Pool) (i : Nat) (l : Lane) : Option (Pool × List Emission) :=
  match l.phase with
  | .closed status failedAt =>
    some ({ p with hand := some (i, l.resultAs status failedAt) }, [])
  | .broken f =>
    let (q, es) := p.cancelAll
    some ({ q with fault := some f }, es)
  | _ => none

def store (x : Executor) (p : Pool) (i : Nat) (r : JobResult) : Pool × List Emission :=
  let q := { p with hand := none, stored := Dict.put p.stored i r }
  if x.failFast && r.status == .failure && !p.cancelled then
    let (q', es) := q.cancelAll
    (q', .sayOf .warning r.subject "failed; cancelling remaining instances (fail_fast)" :: es)
  else (q, [])

/-- The pool after an action, and what is seen of it; none where the action cannot happen. An
interrupt makes the collector drop what it has in its hand, and begin anew with all that is not
stored. -/
def apply (x : Executor) (p : Pool) : Action → Option (Pool × List Emission)
  | .lane i m =>
    match p.lanes[i]? with
    | some l =>
      if m.isPick && !p.mayPick x i then none else (l.advance x p.cancelled m).map (p.withLane i)
    | none => none
  | .take i =>
    match p.lanes[i]? with
    | some l => if p.awaits i then p.take i l else none
    | none => none
  | .store => p.hand.map fun h => p.store x h.1 h.2
  | .cancel => some p.cancelAll
  | .interrupt =>
    if p.interrupted then none
    else
      let (q, es) := p.cancelAll
      some ({ q with interrupted := true, hand := none },
        .say .warning .runner "Interrupted; cancelling in-flight instances" :: es)

def results? (p : Pool) : Option (List JobResult) :=
  (List.range p.lanes.length).mapM (Dict.get? p.stored)

def resultOf (p : Pool) (jobs : List JobResult) : RunResult :=
  { jobs, cancelled := p.cancelled && !jobs.isEmpty }

def isOver (p : Pool) : Bool :=
  p.lanes.all Lane.isOver &&
    (p.fault.isSome || (List.range p.lanes.length).all (Dict.contains p.stored))

end Pool

end JobMatrix
