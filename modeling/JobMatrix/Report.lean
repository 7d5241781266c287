import JobMatrix.TextTable
import JobMatrix.Run.Result

/-! The report of a run: one verdict, and a summary of each job in the order of the declaration. -/

namespace JobMatrix

structure JobSummary where
  id : Scalar
  name : Scalar
  index : Int
  bindings : Bindings
  status : Status
  outcome : String
  failedAt : Option Int := none
  failedStep : Option String := none
  error : Option String := none
  stepsRun : Nat := 0
  stepsTotal : Nat := 0
  duration : Number := .float .zero
deriving Inhabited

namespace JobSummary

def verdict (s : JobSummary) : String :=
  match s.failedStep with
  | some label =>
    if s.status == .failure && !label.isEmpty then "failed_at(" ++ label ++ ")" else s.outcome
  | none => s.outcome

/-- A duration in thousandths; whole numbers stay what they are. -/
def rounded : Number → Number
  | .float x => .float (x.roundTo 3)
  | n => n

def record (s : JobSummary) : Value := .object [
  ("instance", .scalar s.id), ("name", .scalar s.name),
  ("bindings", .map (s.bindings.map fun b => (b.1, .text b.2))), ("status", .text s.status.text),
  ("outcome", .text s.outcome), ("verdict", .text s.verdict),
  ("failed_at", .ofInt? s.failedAt), ("failed_step", .ofText? s.failedStep),
  ("error", .ofText? s.error), ("steps_run", .nat s.stepsRun), ("steps_total", .nat s.stepsTotal),
  ("duration", .scalar (rounded s.duration).scalar)]

def errorOf (r : JobResult) : Option String :=
  if r.status == .failure then
    r.steps.getLast?.map fun last =>
      match last.error with
      | some e => if e.isEmpty then "exit " ++ last.codeValue.display else e
      | none => "exit " ++ last.codeValue.display
  else none

def ofResult (r : JobResult) : Except Fault JobSummary := do
  let failed ← r.failedStep
  let duration ← match Number.sum? (r.steps.map StepResult.duration) with
    | some total => pure total
    | none => throw .numberTooLarge
  return { id := r.subject.id, name := r.subject.displayName, index := r.subject.index
           bindings := r.subject.bindings, status := r.status, outcome := r.outcome
           failedAt := r.failedAt, failedStep := failed.map Step.label, error := errorOf r
           stepsRun := r.steps.length, stepsTotal := r.subject.steps.length, duration }

end JobSummary

structure Report where
  overall : Status
  jobs : List JobSummary := []
  cancelled : Bool := false
deriving Inhabited

namespace Report

def ofRun (r : RunResult) : Except Fault Report := do
  let sorted := r.jobs.mergeSort fun a b => a.subject.index ≤ b.subject.index
  return { overall := r.outcome, jobs := ← sorted.mapM JobSummary.ofResult
           cancelled := r.cancelled }

def exitCode (r : Report) : Int := if r.overall == .success then 0 else 1

def job? (r : Report) (id : Scalar) : Option JobSummary :=
  r.jobs.find? fun j => decide (j.id = id)

def record (r : Report) : Value := .object [
  ("overall", .text r.overall.text), ("cancelled", .bool r.cancelled),
  ("jobs", .list (r.jobs.map JobSummary.record))]

def seconds (n : Number) : Except Fault String :=
  match n.toDouble? with
  | some x => .ok (x.fixed 1 ++ "s")
  | none => .error .numberTooLarge

def colour : Status → String
  | .success => "green"
  | .failure => "red"
  | .cancelled => "yellow"
  | .other _ => "white"

def coloured (s : Status) (marked : String) : String :=
  "[" ++ colour s ++ "]" ++ marked ++ "[/" ++ colour s ++ "]"

def nameMarks : Scalar → Except Fault String
  | .text s => .ok (Markup.escape s)
  | _ => .error .mismatch

def cells (j : JobSummary) : Except Fault (List String) := do
  let name ← nameMarks j.name
  return [toString j.index, name, coloured j.status (Markup.escape j.verdict),
    s!"{j.stepsRun}/{j.stepsTotal}", ← seconds j.duration, Markup.escape (j.error.getD "")]

def lines (r : Report) : Except Fault (List String) := do
  let table : TextTable :=
    { title := "Pipeline run"
      columns := [⟨"#", true⟩, ⟨"Instance", false⟩, ⟨"Outcome", false⟩, ⟨"Steps", true⟩,
        ⟨"Duration", true⟩, ⟨"Error", false⟩]
      rows := ← r.jobs.mapM cells }
  let lines ← table.lines.mapError .misplaced
  return lines ++ ["Overall: " ++ r.overall.text]

end Report

end JobMatrix
