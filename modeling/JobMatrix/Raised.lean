import JobMatrix.Fault
import JobMatrix.Log

/-! What is raised by parts from outside, the observers of a run and its history, and the guard
around the calls to them. -/

namespace JobMatrix

/-- An exception as a guard meets it: what it is, whether it is of the kinds that are caught, and
what comes of making its text, which may raise something itself. -/
structure Raised where
  fault : Fault
  ordinary : Bool := true
  text : Except Fault String := .ok fault.text

namespace Raised

def of (f : Fault) : Raised := { fault := f }

/-- The text that is logged, or what passes the guard: an exception that is not caught, or what is
raised when the text of one that is caught is made. -/
def guard (r : Raised) : Except Fault String := if r.ordinary then r.text else .error r.fault

/-- Whether nothing passes the guard. -/
def isCaught (r : Raised) : Bool := r.guard.isOk

end Raised

/-- What a guarded call leaves: what is logged, and what has passed the guard. -/
structure Guarded where
  logs : List LogEntry := []
  passed : Option Fault := none

/-- A call that has raised something or nothing, under a guard that logs. -/
def Guarded.call (log : String → LogEntry) : Option Raised → Guarded
  | none => {}
  | some r =>
    match r.guard with
    | .ok text => { logs := [log text] }
    | .error f => { passed := some f }

end JobMatrix
