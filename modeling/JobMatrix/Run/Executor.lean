import JobMatrix.Path
import JobMatrix.Run.Result

/-! How jobs are run: how many at once, under which limits, and in which environment and directory
each step runs. -/

namespace JobMatrix

open JobMatrix.Path (Place)

/-- The environment and the directory of one step. -/
structure Context where
  env : Env
  cwd : Path
deriving Inhabited

def Context.build (ambient : Env) (overlays : List Env) (cwd : Path) : Context :=
  { env := overlays.foldl Dict.merge ambient, cwd }

/-- A time limit in seconds, and how it is written. Waiting fails under an integer that is out of the
range of binary numbers. -/
structure Limit where
  amount : Amount
  text : String
  boundless : Bool := false
deriving DecidableEq, Inhabited

def Limit.ofNumber (n : Number) : Limit :=
  { amount := n.amount, text := n.text, boundless := n.toDouble?.isNone }

def Limit.remaining (deadline : Amount) (now : Rat) : Limit :=
  let left := deadline.minus now
  { amount := left
    text := match left with
      | .exactly q => (Double.ofRat q).text
      | .above => "inf"
      | .below => "-inf"
      | .unknown => "nan" }

structure Executor where
  maxWorkers : Option Int := none
  stepTimeout : Option Number := none
  jobTimeout : Option Number := none
  failFast : Bool := false
  baseEnv : Env := []
  workspace : Place := []
  showOutput : Bool := false
  ambient : Env := []
deriving Inhabited

namespace Executor

/-- The executor for one run: `env` goes under its own variables. -/
def withDefaults (x : Executor) (env : Env) : Executor :=
  { x with baseEnv := Dict.merge env x.baseEnv }

def contextFor (x : Executor) (i : Instance) (s : Step) : Context :=
  let cwd := match s.directory with
    | some d => if d.isEmpty then Path.ofPlace x.workspace else Path.ofPlace x.workspace / d
    | none => .ofPlace x.workspace
  .build x.ambient [x.baseEnv, i.env, s.env] cwd

def ownTimeout (x : Executor) (s : Step) : Option Number := s.timeout <|> x.stepTimeout

def deadline (x : Executor) (now : Rat) : Except Fault (Option Amount) :=
  match x.jobTimeout with
  | some n =>
    if n.isZero then .ok none
    else if n.toDouble?.isNone then .error .numberTooLarge
    else .ok (some (n.amount.plus now))
  | none => .ok none

def limitFor (x : Executor) (s : Step) (deadline : Option Amount) (now : Rat) : Option Limit :=
  let own := (x.ownTimeout s).map Limit.ofNumber
  match deadline with
  | none => own
  | some d =>
    let left := Limit.remaining d now
    match own with
    | none => some left
    | some l => some (if left.amount.less l.amount then left else l)

/-- How many jobs run at once when there are `count`. -/
def workers (x : Executor) (count : Nat) : Nat :=
  match x.maxWorkers with
  | some n => if n == 0 then max 1 count else max 1 n.toNat
  | none => max 1 count

def exhausted (x : Executor) : String :=
  "job timeout of " ++ (x.jobTimeout.map Number.text).getD "None" ++ "s exhausted"

end Executor

end JobMatrix
