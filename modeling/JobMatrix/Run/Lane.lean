import JobMatrix.Run.Attempt
import JobMatrix.Run.Executor
import JobMatrix.Run.Notice

/-! The lane of one instance: its steps run one after another, and before each of them the lane
looks at the token and at the clock. The token is read from outside; what happens to the process of
a step comes from outside as well. -/

namespace JobMatrix

/-- How far a lane has come. -/
inductive Phase where
  | queued
  /-- About to look at the token before the next step. -/
  | looking
  /-- The next step is announced, its process is about to start. -/
  | starting (limit : Option Limit)
  /-- The process is under way; `expired` holds once its time is up. -/
  | running (limit : Option Limit) (expired : Bool)
  /-- The process has ended with a code, its streams may still be open. -/
  | draining (limit : Option Limit) (expired : Bool) (code : Int)
  | closed (status : Status) (failedAt : Option Int)
  | broken (f : Fault)

/-- One instance on its way: its phase, its deadline and the results of the steps so far. -/
structure Lane where
  subject : Instance
  phase : Phase := .queued
  deadline : Option Amount := none
  results : List StepResult := []

/-- How a process was started, or why it was not. -/
inductive Launch where
  | started
  /-- Whether there is a directory could not be told. -/
  | unreadable (f : Fault)
  | noDirectory (path : String)
  | refused (detail : String)
  | broken (f : Fault)

/-- What can be seen of an action from outside. -/
inductive Emission where
  | log (e : LogEntry)
  | notice (n : Notice)
  | attempt (a : Attempt)

namespace Emission

def say (level : Level) (source : Source) (message : String) : Emission :=
  .log ⟨level, source, message⟩

def sayOf (level : Level) (i : Instance) (message : String) : Emission :=
  say level .runner ("[" ++ i.id.display ++ "] " ++ message)

end Emission

namespace Lane

/-- What happens in a lane. -/
inductive Move where
  /-- A worker takes the instance. -/
  | pick (now : Rat)
  /-- The job begins without a look at the token. -/
  | begin (now : Rat)
  /-- The lane looks at the token and the clock before its next step. -/
  | look (now : Rat)
  | launch (how : Launch)
  /-- The time of the process is up. -/
  | expire
  | exit (code : Int)
  /-- The streams of the process are closed. -/
  | leave (stdout stderr : String) (duration : Number)

def Move.isPick : Move → Bool
  | pick _ => true
  | _ => false

def isQueued (l : Lane) : Bool := match l.phase with | .queued => true | _ => false

def isOver (l : Lane) : Bool :=
  match l.phase with
  | .closed .. => true
  | .broken _ => true
  | _ => false

def isBusy (l : Lane) : Bool := !l.isQueued && !l.isOver

def isRunning (l : Lane) : Bool := match l.phase with | .running .. => true | _ => false

def step? (l : Lane) : Option Step := l.subject.steps[l.results.length]?

def resultAs (l : Lane) (status : Status) (failedAt : Option Int) : JobResult :=
  { subject := l.subject, steps := l.results, status, failedAt }

def result? (l : Lane) : Option JobResult :=
  match l.phase with
  | .closed status failedAt => some (l.resultAs status failedAt)
  | _ => none

/-- Closes a lane; the outcome is logged and announced. -/
def close (l : Lane) (status : Status) (failedAt : Option Int) : Lane × List Emission :=
  let r := l.resultAs status failedAt
  ({ l with phase := .closed status failedAt },
    [.sayOf .info l.subject r.outcome, .notice (.jobEnd l.subject r)])

def proceed (l : Lane) : Lane × List Emission :=
  if l.results.length < l.subject.steps.length then ({ l with phase := .looking }, [])
  else l.close .success none

def record (l : Lane) (r : StepResult) : Lane × List Emission :=
  let l' := { l with results := l.results ++ [r] }
  let (l'', es) := match r.status with
    | .success => l'.proceed
    | .cancelled => l'.close .cancelled none
    | _ => l'.close .failure (some r.index)
  (l'', .notice (.stepEnd l.subject r) :: es)

def start (x : Executor) (l : Lane) (now : Rat) : Lane × List Emission :=
  match x.deadline now with
  | .error f => ({ l with phase := .broken f }, [])
  | .ok deadline =>
    let (l', es) := proceed { l with deadline }
    (l', .notice (.jobStart l.subject) ::
      .sayOf .info l.subject s!"starting ({l.subject.steps.length} steps)" :: es)

def look (x : Executor) (cancelled : Bool) (l : Lane) (s : Step) (now : Rat) :
    Lane × List Emission :=
  let index : Int := l.results.length
  if cancelled then l.close .cancelled none
  else
    let limit := x.limitFor s l.deadline now
    if limit.elim false fun l => l.amount.nonpositive then
      l.record { step := s, index, status := .failure, error := some x.exhausted, timedOut := true }
    else ({ l with phase := .starting limit }, [.notice (.stepStart l.subject s index)])

def attemptLog (l : Lane) (s : Step) : Attempt → List Emission
  | .finished _ => []
  | .failed f => [.sayOf .warning l.subject f.text]
  | .cancelled _ => [.sayOf .info l.subject ("step '" ++ s.label ++ "' cancelled")]

def conclude (l : Lane) (s : Step) (a : Attempt) : Lane × List Emission :=
  let (l', es) := l.record (a.result s l.results.length)
  (l', .attempt a :: l.attemptLog s a ++ es)

/-- Starts the process of a step, or ends the step. What is wrong with its directory is noticed
before the token is looked at, and the token before the process is started. -/
def launch (cancelled : Bool) (l : Lane) (s : Step) (limit : Option Limit) :
    Launch → Lane × List Emission
  | .unreadable f => ({ l with phase := .broken f }, [])
  | .noDirectory path =>
    l.conclude s (.failed
      { step := s.label, error := some ("working directory not found: " ++ path) })
  | .started =>
    if cancelled then l.conclude s (.cancelled "run")
    else if limit.elim false Limit.boundless then
      ({ l with phase := .broken .numberTooLarge }, [])
    else ({ l with phase := .running limit false }, [])
  | .refused detail =>
    if cancelled then l.conclude s (.cancelled "run")
    else l.conclude s (.failed
      { step := s.label, error := some ("could not start: " ++ detail) })
  | .broken f =>
    if cancelled then l.conclude s (.cancelled "run") else ({ l with phase := .broken f }, [])

/-- What comes of a process that has ended and of which all is read. -/
def ending (cancelled : Bool) (s : Step) (limit : Option Limit) (expired : Bool) (o : Output) :
    Attempt :=
  .ofEnding s o (if expired then limit.map Limit.text else none) cancelled

/-- The lane after a move under a token, and what is seen of it; none where the move cannot
happen. -/
def advance (x : Executor) (cancelled : Bool) (l : Lane) : Move → Option (Lane × List Emission)
  | .pick now =>
    match l.phase with
    | .queued =>
      if cancelled then
        some ({ l with phase := .closed .cancelled none },
          [.sayOf .info l.subject "cancelled before start"])
      else some (l.start x now)
    | _ => none
  | .begin now =>
    match l.phase with
    | .queued => some (l.start x now)
    | _ => none
  | .look now =>
    match l.phase, l.step? with
    | .looking, some s => some (l.look x cancelled s now)
    | _, _ => none
  | .launch how =>
    match l.phase, l.step? with
    | .starting limit, some s => some (l.launch cancelled s limit how)
    | _, _ => none
  | .expire =>
    match l.phase, l.step? with
    | .running (some limit) false, some s =>
      some ({ l with phase := .running (some limit) true },
        [.say .warning .step ("Step '" ++ s.label ++ "' exceeded timeout of " ++ limit.text ++
          "s, killing")])
    | _, _ => none
  | .exit code =>
    match l.phase with
    | .running limit expired => some ({ l with phase := .draining limit expired code }, [])
    | _ => none
  | .leave stdout stderr duration =>
    match l.phase, l.step? with
    | .draining limit expired code, some s =>
      some (l.conclude s (ending cancelled s limit expired { code, stdout, stderr, duration }))
    | _, _ => none

end Lane

end JobMatrix
