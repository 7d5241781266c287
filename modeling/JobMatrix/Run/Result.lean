import JobMatrix.Fault
import JobMatrix.Template

/-! What comes of a run: the result of each step that was begun, of each job, and of the whole. -/

namespace JobMatrix

/-- How a step or a job ended. -/
inductive Status where
  | success
  | failure
  | cancelled
  | other (word : String)
deriving DecidableEq, Repr, Inhabited

namespace Status

def text : Status → String
  | success => "success"
  | failure => "failure"
  | cancelled => "cancelled"
  | other word => word

def ofText (s : String) : Status :=
  if s == "success" then success
  else if s == "failure" then failure
  else if s == "cancelled" then cancelled
  else other s

end Status

/-- How one step ended and what it wrote. -/
structure StepResult where
  step : Step
  index : Int
  status : Status := .success
  code : Option Int := none
  error : Option String := none
  stdout : String := ""
  stderr : String := ""
  duration : Number := .float .zero
  timedOut : Bool := false
deriving Inhabited

namespace StepResult

def ok (r : StepResult) : Bool := r.status == .success

def codeValue (r : StepResult) : Value := .ofInt? r.code

def record (r : StepResult) : Value := .object [
  ("index", .int r.index), ("name", .text r.step.label), ("command", .text r.step.command.display),
  ("status", .text r.status.text), ("returncode", r.codeValue), ("error", .ofText? r.error),
  ("duration", .scalar r.duration.scalar), ("timed_out", .bool r.timedOut)]

end StepResult

/-- The results of the steps of one instance, in the order in which they were begun, and where it
failed if it did. -/
structure JobResult where
  subject : Instance
  steps : List StepResult := []
  status : Status := .success
  failedAt : Option Int := none
deriving Inhabited

namespace JobResult

def ok (r : JobResult) : Bool := r.status == .success

def failedAtText (r : JobResult) : String := (r.failedAt.map toString).getD "None"

def outcome (r : JobResult) : String :=
  if r.status == .failure then "failed_at(" ++ r.failedAtText ++ ")" else r.status.text

def itemAt? {α : Type} (xs : List α) : Int → Option α
  | .ofNat n => xs[n]?
  | .negSucc n => if n < xs.length then xs[xs.length - 1 - n]? else none

def failedStep (r : JobResult) : Except Fault (Option Step) :=
  match r.failedAt with
  | none => .ok none
  | some i =>
    match itemAt? r.subject.steps i with
    | some s => .ok (some s)
    | none => .error .noSuchItem

def record (r : JobResult) : Value := .object [
  ("instance", .scalar r.subject.id),
  ("bindings", .map (r.subject.bindings.map fun b => (b.1, .text b.2))),
  ("status", .text r.status.text), ("outcome", .text r.outcome),
  ("failed_at", .ofInt? r.failedAt),
  ("steps", .list (r.steps.map StepResult.record))]

end JobResult

/-- The results of all instances in the order in which they were given. -/
structure RunResult where
  jobs : List JobResult := []
  cancelled : Bool := false
deriving Inhabited

namespace RunResult

def outcome (r : RunResult) : Status :=
  if r.jobs.all JobResult.ok then .success else .failure

def ok (r : RunResult) : Bool := r.outcome == .success

end RunResult

end JobMatrix
