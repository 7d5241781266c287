import JobMatrix.Run.Result
import JobMatrix.Text.Blank

/-! One attempt at a step: its process ends, cannot be started, or is cancelled. -/

namespace JobMatrix

def Text.tailLimit : Nat := 4000

/-- A text without blanks at its ends, and of that the last characters that are kept. -/
def Text.tail (s : List Char) : String :=
  let bare := Text.strip s
  String.ofList (bare.drop (bare.length - Text.tailLimit))

/-- What a process leaves: its code and what is kept of its streams. -/
structure Output where
  code : Int
  stdout : String
  stderr : String
  duration : Number := .float .zero
deriving Inhabited

/-- Why a step failed. There is no output when its process was never started. -/
structure StepFailure where
  step : String
  code : Option Int := none
  error : Option String := none
  timedOut : Bool := false
  output : Option Output := none
deriving Inhabited

def StepFailure.text (f : StepFailure) : String :=
  let exit := "step '" ++ f.step ++ "' failed (exit=" ++
    ((f.code.map toString).getD "None") ++ ")"
  match f.error with
  | some e => if e.isEmpty then exit else "step '" ++ f.step ++ "' failed: " ++ e
  | none => exit

/-- What comes of trying to run a step. -/
inductive Attempt where
  | finished (o : Output)
  | failed (f : StepFailure)
  | cancelled (subject : String)

namespace Attempt

def result (a : Attempt) (step : Step) (index : Int) : StepResult :=
  match a with
  | finished o =>
    { step, index, status := .success, code := some o.code, stdout := o.stdout, stderr := o.stderr
      duration := o.duration }
  | failed f =>
    { step, index, status := .failure, code := f.code, error := f.error
      stdout := (f.output.map Output.stdout).getD ""
      stderr := (f.output.map Output.stderr).getD ""
      duration := (f.output.map Output.duration).getD (.float .zero), timedOut := f.timedOut }
  | cancelled _ => { step, index, status := .cancelled, error := some "cancelled" }

/-- What comes of a process that has ended: success with code zero in time, else cancellation if the
run is cancelled and the process had time left, else failure. -/
def ofEnding (step : Step) (o : Output) (expired : Option String) (cancelled : Bool) : Attempt :=
  if o.code == 0 && expired.isNone then .finished o
  else if cancelled && expired.isNone then .cancelled ("step '" ++ step.label ++ "'")
  else .failed
    { step := step.label, code := some o.code
      error := expired.map fun limit => "timed out after " ++ limit ++ "s"
      timedOut := expired.isSome, output := some o }

end Attempt

end JobMatrix
