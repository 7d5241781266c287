import JobMatrix.History.Store
import JobMatrix.Raised
import JobMatrix.Report
import JobMatrix.Trigger

/-! Runs in the history store: a run is entered when it starts, and its jobs, its steps and its
report when it ends, one request after another. -/

namespace JobMatrix.History

namespace Store

def insertInto (s : Store) (table now : String) (row : List (String × Value)) :
    Except Fault Store :=
  match cellsOf row with
  | .error o => .error (.unwritable o)
  | .ok cells => (s.insert table now cells).mapError .history

def insertValues (s : Store) (t : Table) (now : String) (row : List (String × Value)) :
    Except Fault Store :=
  s.insertInto t.name now row

def updateValues (s : Store) (table : String) (changes : List (String × Value)) (c : Condition) :
    Except Fault Store :=
  match cellsOf changes with
  | .error o => .error (.unwritable o)
  | .ok cells => (s.updateWhere table cells c).mapError .history

def start (s : Store) (now run : String) (event : Event) : Except Fault Store :=
  s.insertValues .runs now [("run_id", .text run), ("event_kind", .text event.kind),
    ("event_ref", .ofText? event.ref), ("status", .text "running")]

def jobKey (run : String) (job : JobResult) : String := run ++ ":" ++ toString job.subject.index

def jobRow (run : String) (job : JobResult) : List (String × Value) := [
  ("job_id", .text (jobKey run job)), ("run_id", .text run),
  ("instance_id", .scalar job.subject.id), ("execution_order", .int job.subject.index),
  ("bindings_json", .map (job.subject.bindings.map fun b => (b.1, .text b.2))),
  ("status", .text job.status.text), ("failed_at", .ofInt? job.failedAt)]

def stepRow (key : String) (r : StepResult) : List (String × Value) := [
  ("job_id", .text key), ("step_index", .int r.index), ("name", .text r.step.label),
  ("command", .text r.step.command.display), ("status", .text r.status.text),
  ("returncode", r.codeValue), ("error", .ofText? r.error), ("stdout", .text r.stdout),
  ("stderr", .text r.stderr), ("duration", .scalar r.duration.scalar)]

def rowsOf (run : String) (job : JobResult) : List (Table × List (String × Value)) :=
  (.jobs, jobRow run job) :: job.steps.map fun r => (.steps, stepRow (jobKey run job) r)

def close (s : Store) (now run : String) (report : Report) : Except Fault Store :=
  s.updateValues Table.runs.name [("status", .text report.overall.text),
    ("end_timestamp", .text now), ("report_json", report.record)] (.equals "run_id" (.ok (.text run)))

end Store

/-- A connection to a store. Any request may raise something, by the number of requests before it;
`past` holds the tables as they were before each request, the latest first. -/
structure Connection where
  store : Store := {}
  raises : Nat → Option Raised := fun _ => none
  past : List Store := []
deriving Inhabited

namespace Connection

def closed : Connection := { raises := fun _ => some (.of (.history .closed)) }

/-- The states in which the tables have been. -/
def states (c : Connection) : List Store := c.store :: c.past

/-- Makes a request. A value that has no form in the tables is found before the request is made; and
a request that raises something leaves the tables as they are. -/
def ask (c : Connection) (change : Store → Except Fault Store) : Connection × Option Raised :=
  let asked := { c with past := c.store :: c.past }
  match change c.store, c.raises c.past.length with
  | .error (.unwritable o), _ => (c, some (.of (.unwritable o)))
  | _, some r => (asked, some r)
  | .error f, none => (asked, some (.of f))
  | .ok s, none => ({ asked with store := s }, none)

def start (c : Connection) (now run : String) (event : Event) : Connection × Option Raised :=
  c.ask (·.start now run event)

def addRows (c : Connection) (now : String) :
    List (Table × List (String × Value)) → Connection × Option Raised
  | [] => (c, none)
  | (t, row) :: rest =>
    match c.ask (·.insertValues t now row) with
    | (c', none) => addRows c' now rest
    | raised => raised

/-- Closes the entry of a run, after a look at the time. -/
def close (c : Connection) (now run : String) (report : Report) : Connection × Option Raised :=
  match c.ask .ok with
  | (c, none) => c.ask (·.close now run report)
  | raised => raised

/-- Records the end of a run: its rows, and then its report. What is raised on the way ends the
recording. -/
def finish (c : Connection) (now run : String) (result : RunResult) (report : Report) :
    Connection × Option Raised :=
  match c.addRows now (result.jobs.flatMap (Store.rowsOf run)) with
  | (c, none) => c.close now run report
  | raised => raised

end Connection

namespace Store

def finish (s : Store) (now run : String) (result : RunResult) (report : Report) :
    Store × Option Fault :=
  let (c, raised) := ({ store := s } : Connection).finish now run result report
  (c.store, raised.map Raised.fault)

def runColumns : List String :=
  ["run_id", "event_kind", "event_ref", "start_timestamp", "end_timestamp", "status"]

/-- The runs by their start, the latest first, at most `limit` of them; below zero there is no
limit. -/
def recentRuns (s : Store) (limit : Int) : Except Refusal (List (Dict String Cell)) :=
  if !Cell.fits limit then .error .tooLarge
  else
    let sorted := s.runs.reverse.mergeSort fun a b =>
      !(a.get "start_timestamp").less (b.get "start_timestamp")
    let kept := if limit < 0 then sorted else sorted.take limit.toNat
    .ok (kept.map fun r => runColumns.map fun c => (c, r.get c))

def jobsOf (s : Store) (run : String) : List (Dict String Cell) :=
  let own := s.jobs.filter fun r => (r.get "run_id").equal (.text run)
  let sorted := own.mergeSort fun a b => !(b.get "execution_order").less (a.get "execution_order")
  sorted.map (·.cells)

end Store

def readFault : Json.ReadError → Fault
  | .malformed => .mismatch
  | .tooManyDigits count => .tooManyDigits count
  | .tooDeep => .tooDeep

def values (row : Dict String Cell) : Except Fault (List (String × Value)) :=
  row.mapM fun e => do
    let v ← e.2.toValue.mapError readFault
    return (e.1, v)

end JobMatrix.History
