import JobMatrix.Declaration.Build
import JobMatrix.History.Record
import JobMatrix.Run.Course

/-! The execution of a pipeline for an event: the trigger decides whether it runs, all templates are
expanded before any process starts, the instances run, and their results become a report. Observers
and the history look on. -/

namespace JobMatrix

/-- Where runs are recorded: nowhere, or through a connection to a store. -/
inductive Archive where
  | absent
  | kept (c : History.Connection)
deriving Inhabited

namespace Archive

def record (a : Archive) (act : History.Connection → History.Connection × Option Raised) :
    Archive × Option Raised :=
  match a with
  | absent => (a, none)
  | kept c => (.kept (act c).1, (act c).2)

def start (a : Archive) (now run : String) (event : Event) : Archive × Option Raised :=
  a.record (·.start now run event)

def finish (a : Archive) (now run : String) (result : RunResult) (report : Report) :
    Archive × Option Raised :=
  a.record (·.finish now run result report)

def failureLog (detail : String) : LogEntry :=
  ⟨.error, .pipeline, "Failed to record run history: " ++ detail⟩

end Archive

/-- What comes of an execution: a report, none if the event does not start a run, or what stopped
it; the state of all that was used; and what was raised when the run was recorded. -/
structure Execution (M : Type) where
  answer : Except Fault (Option Report)
  machine : M
  archive : Archive
  cancelled : Bool
  sights : List Sight
  unrecorded : List Raised := []

/-- The name of a run, made from a number that no other run has: digits in five groups. -/
def runIdOf (n : Nat) : String :=
  let digits := Nat.toDigits 16 (n % 16 ^ 30)
  let cs := List.replicate (30 - digits.length) '0' ++ digits
  let part (start count : Nat) : String := String.ofList ((cs.drop start).take count)
  part 0 8 ++ "-" ++ part 8 4 ++ "-4" ++ part 12 3 ++ "-8" ++ part 15 3 ++ "-" ++ part 18 12

/-- Who takes part in an execution, under which name and time it is recorded, and in which order its
events happen. The executor's own observer takes the place of the pipeline's for jobs and steps. -/
structure Setting where
  executor : Executor
  observer : Option Observer := none
  executorObserver : Option Observer := none
  runId : String
  now : String
  schedule : Course.Schedule := .earliest

namespace Pipeline

variable {M : Type} [Host M]

def planFor (p : Pipeline) (event : Event) : Except ConfigError (Option (List Instance)) :=
  if p.trigger.starts event then some <$> Template.expandAll p.templates else .ok none

def preamble (p : Pipeline) (event : Event) : List LogEntry :=
  p.trigger.log event ++
    if p.trigger.starts event then Template.expansionLog p.templates
    else [⟨.info, .pipeline, "Skipping run for event '" ++ event.kind ++ "'"⟩]

def cancelsNow (requests : List Request) : Bool :=
  requests.any fun r => match r with | .cancel none => true | _ => false

/-- What the pipeline's observer makes of the start of a run. -/
def opening (s : Setting) (instances : List Instance) : Hearing :=
  Observer.tell s.observer 0 (.runStart instances.length)

def courseOf (p : Pipeline) (s : Setting) (instances : List Instance) (machine : M)
    (cancelled : Bool) : Course M :=
  (s.executor.withDefaults p.env).course (s.executorObserver <|> s.observer) machine cancelled
    instances 1 (opening s instances).requests s.schedule

/-- What a course comes to: the results of its jobs, and the report on them. -/
def conclusion (c : Course M) : Except Fault (RunResult × Report) := do
  let result ← c.result
  return (result, ← Report.ofRun result)

/-- Runs instances whose start has been recorded and announced, and records and announces the end. -/
def carryOut (p : Pipeline) (s : Setting) (instances : List Instance) (machine : M)
    (archive : Archive) (cancelled : Bool) (before : List Sight) (unrecorded : List Raised) :
    Execution M :=
  let course := p.courseOf s instances machine cancelled
  let stopped (f : Fault) (archive : Archive) (after : List Sight) (unrecorded : List Raised) :
      Execution M :=
    { answer := .error f, machine := course.machine, archive, cancelled := course.pool.cancelled
      sights := before ++ course.seen ++ after, unrecorded }
  match conclusion course with
  | .error f => stopped f archive [] unrecorded
  | .ok (result, report) =>
    let (archive, raised) := archive.finish s.now s.runId result report
    let unrecorded := unrecorded ++ raised.toList
    let recorded := Guarded.call Archive.failureLog raised
    match recorded.passed with
    | some f => stopped f archive [] unrecorded
    | none =>
      let closing := Observer.tell s.observer course.given (.runEnd report.overall)
      let after := recorded.logs.map Sight.log ++ closing.sights
      match closing.passed with
      | some f => stopped f archive after unrecorded
      | none =>
        { answer := .ok (some report), machine := course.machine, archive
          cancelled := course.pool.cancelled || cancelsNow closing.requests
          sights := before ++ course.seen ++ after, unrecorded }

/-- Records and announces the start of a run, and runs the instances. What passes a guard stops the
execution. -/
def begin (p : Pipeline) (event : Event) (s : Setting) (instances : List Instance) (machine : M)
    (archive : Archive) (cancelled : Bool) : Execution M :=
  let (archive, raised) := archive.start s.now s.runId event
  let recorded := Guarded.call Archive.failureLog raised
  match recorded.passed with
  | some f =>
    { answer := .error f, machine, archive, cancelled, sights := [], unrecorded := raised.toList }
  | none =>
    let first := opening s instances
    let before := recorded.logs.map Sight.log ++ first.sights
    match first.passed with
    | some f =>
      { answer := .error f, machine, archive, cancelled := cancelled || cancelsNow first.requests
        sights := before, unrecorded := raised.toList }
    | none =>
      let announced : Sight := .log ⟨.info, .pipeline,
        s!"Run {s.runId}: {instances.length} instance(s) for event '{event.kind}'"⟩
      p.carryOut s instances machine archive cancelled (before ++ [announced]) raised.toList

def execute (p : Pipeline) (event : Event) (s : Setting) (machine : M) (archive : Archive)
    (cancelled : Bool) : Execution M :=
  let idle (answer : Except Fault (Option Report)) : Execution M :=
    { answer, machine, archive, cancelled, sights := [] }
  let e := match p.planFor event with
    | .error e => idle (.error (.config e))
    | .ok none => idle (.ok none)
    | .ok (some instances) => p.begin event s instances machine archive cancelled
  { e with sights := (p.preamble event).map Sight.log ++ e.sights }

end Pipeline

end JobMatrix
