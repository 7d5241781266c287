import JobMatrix.Raised
import JobMatrix.Report

/-! What observers of a run are told, the line in which it is printed, and how an observer can
react. -/

namespace JobMatrix

/-- A line about the course of a run. -/
inductive Bulletin where
  | runStart (instances : Nat)
  | runEnd (overall : String)
  | jobStart (id : String)
  | jobEnd (id outcome : String)
  | stepStart (id index label : String)
  | stepEnd (id index status : String)
deriving DecidableEq, Repr

def Bulletin.line : Bulletin → String
  | runStart n => s!"[hook] run_start: instances={n}"
  | runEnd overall => "[hook] run_end: overall=" ++ overall
  | jobStart id => "[hook] job_start: " ++ id
  | jobEnd id outcome => "[hook] job_end: " ++ id ++ " -> " ++ outcome
  | stepStart id index label => "[hook] step_start: " ++ id ++ " #" ++ index ++ " " ++ label
  | stepEnd id index status => "[hook] step_end: " ++ id ++ " #" ++ index ++ " -> " ++ status

def Bulletin.part (v : Value) (key : String) : String :=
  ((v.get? (.text key)).map Value.display).getD "?"

/-- The line about a notice that is given by its name and loose parts; none where there is no such
notice, where the number of parts is wrong, or where instances cannot be counted. -/
def Bulletin.ofParts? (name : String) (parts : List Value) : Option Bulletin :=
  match name, parts with
  | "on_run_start", [.list is] => some (.runStart is.length)
  | "on_run_start", [.scalar (.text s)] => some (.runStart s.length)
  | "on_run_end", [r] => some (.runEnd (part r "overall"))
  | "on_job_start", [i] => some (.jobStart (part i "id"))
  | "on_job_end", [i, r] => some (.jobEnd (part i "id") (part r "outcome"))
  | "on_step_start", [i, s, index] =>
    some (.stepStart (part i "id") index.display (part s "label"))
  | "on_step_end", [i, r] => some (.stepEnd (part i "id") (part r "index") (part r "status"))
  | _, _ => none

/-- The methods that every object has, with the number of their arguments. A call of one shows
nothing. -/
def objectMethods : List (String × Nat) :=
  ["str", "repr", "hash", "dir", "sizeof", "reduce", "getstate", "class", "init_subclass"].map
    ("__" ++ · ++ "__", 0) ++ ["eq", "ne", "lt", "le", "gt", "ge"].map ("__" ++ · ++ "__", 1)

/-- What an observer is told. -/
inductive Notice where
  | runStart (instances : Nat)
  | runEnd (overall : Status)
  | jobStart (i : Instance)
  | jobEnd (i : Instance) (r : JobResult)
  | stepStart (i : Instance) (s : Step) (index : Int)
  | stepEnd (i : Instance) (r : StepResult)

namespace Notice

def name : Notice → String
  | runStart _ => "on_run_start"
  | runEnd _ => "on_run_end"
  | jobStart _ => "on_job_start"
  | jobEnd .. => "on_job_end"
  | stepStart .. => "on_step_start"
  | stepEnd .. => "on_step_end"

def arity : List (String × Nat) :=
  [("on_run_start", 1), ("on_run_end", 1), ("on_job_start", 1), ("on_job_end", 2),
   ("on_step_start", 3), ("on_step_end", 2)]

def bulletin : Notice → Bulletin
  | runStart n => .runStart n
  | runEnd overall => .runEnd overall.text
  | jobStart i => .jobStart i.id.display
  | jobEnd i r => .jobEnd i.id.display r.outcome
  | stepStart i s index => .stepStart i.id.display (toString index) s.label
  | stepEnd i r => .stepEnd i.id.display (toString r.index) r.status.text

def subject? : Notice → Option Instance
  | jobStart i => some i
  | jobEnd i _ => some i
  | stepStart i _ _ => some i
  | stepEnd i _ => some i
  | _ => none

def index? : Notice → Option Int
  | stepStart _ _ index => some index
  | stepEnd _ r => some r.index
  | _ => none

end Notice

/-- What an observer can ask for: to cancel the run, at once or after some seconds, or to interrupt
it. -/
inductive Request where
  | cancel (delay : Option Rat)
  | interrupt (delay : Rat)

/-- What an observer does when it is told something: it may raise an exception, and may ask for
something. -/
structure Reaction where
  raised : Option Raised := none
  requests : List Request := []

/-- An observer: its name, how it reacts to each notice, and what it raises at a notice by the number
of those before it, whatever it says. -/
structure Observer where
  name : String
  react : Notice → Reaction := fun _ => {}
  lapse : Nat → Option Raised := fun _ => none

/-- What comes of a call by name of a method of the observer that prints, or of the one that does
nothing: a line, or what is raised where there is no such method or the parts do not suit it. -/
def Observer.respond (prints : Bool) (name : String) (parts : List Value) :
    Except Raised (Option Bulletin) :=
  if objectMethods.contains (name, parts.length) then .ok none
  else match Dict.get? Notice.arity name with
    | none => .error (.of .noAttribute)
    | some count =>
      if prints then
        match Bulletin.ofParts? name parts with
        | some b => .ok (some b)
        | none => .error (.of .mismatch)
      else if count == parts.length then .ok none else .error (.of .mismatch)

def Observer.failureLog (observer notice detail : String) : LogEntry :=
  ⟨.error, .hook, "Error in hook " ++ observer ++ "." ++ notice ++ ": " ++ detail⟩

/-- What is seen in the course of a run. -/
inductive Sight where
  | log (e : LogEntry)
  /-- What an observer is told. -/
  | notice (n : Notice)
  /-- Output of a step that is shown as it comes. -/
  | shown (text : String)

namespace Sight

def logs (ss : List Sight) : List LogEntry :=
  ss.filterMap fun s => match s with | log e => some e | _ => none

def notices (ss : List Sight) : List Notice :=
  ss.filterMap fun s => match s with | notice n => some n | _ => none

def output (ss : List Sight) : String :=
  String.join (ss.map fun s => match s with | shown text => text | _ => "")

end Sight

/-- What comes of telling an observer something: what is seen, what it asks for, and what it raises
that passes the guard. -/
structure Hearing where
  sights : List Sight := []
  requests : List Request := []
  passed : Option Fault := none

/-- Tells an observer something after a number of other notices. What it raises is logged and changes
nothing else, unless it passes the guard. -/
def Observer.tell (o : Option Observer) (given : Nat) (n : Notice) : Hearing :=
  match o with
  | none => {}
  | some o =>
    let r := o.react n
    let g := Guarded.call (failureLog o.name n.name) (r.raised <|> o.lapse given)
    { sights := .notice n :: g.logs.map .log, requests := r.requests, passed := g.passed }

end JobMatrix
