import JobMatrix.Declaration.Shape
import JobMatrix.Fault
import JobMatrix.Log
import JobMatrix.Matrix
import JobMatrix.Trigger

/-! A pipeline from its declaration: the document is checked against its shape, and then read part
by part into templates, a trigger and an environment. -/

namespace JobMatrix

/-- A declared pipeline: its jobs, the events that start it and its environment. -/
structure Pipeline where
  templates : List Template
  trigger : Trigger := {}
  env : Env := []
deriving Inhabited

namespace Declaration

def scalarText : Value → String
  | .scalar (.bool b) => if b then "true" else "false"
  | v => v.display

/-! What a part of a document is read as. A value of another kind is refused. -/

def entriesOf (v : Value) : Except Fault (List (Scalar × Value)) :=
  match v.opened with
  | .map entries => .ok entries
  | _ => .error .noAttribute

def itemsOf (v : Value) : Except Fault (List Value) :=
  match v.opened with
  | .list items => .ok items
  | _ => .error .mismatch

def wordOf (v : Value) : Except Fault String :=
  match v.opened with
  | .scalar (.text s) => .ok s
  | _ => .error .mismatch

def textOf (v : Value) : Except Fault String :=
  match v.opened with
  | .scalar s => if s.isShowable then .ok (scalarText (.scalar s)) else .error .tooLongToShow
  | _ => .error .mismatch

def listOf {α : Type} (read : Value → Except Fault α) (v : Value) : Except Fault (List α) := do
  (← itemsOf v).mapM read

def optional {α : Type} (absent : α) (read : Value → Except Fault α) :
    Option Value → Except Fault α
  | some v => read v
  | none => .ok absent

def required (fields : List (Scalar × Value)) (name : String) : Except Fault Value :=
  match Dict.get? fields (.text name) with
  | some v => .ok v
  | none => .error (.unknownKey name)

def envOf (v : Value) : Except Fault Env := do
  let entries ← (← entriesOf v).mapM fun e => do
    if !e.1.isShowable then throw .tooLongToShow
    return (e.1.display, ← textOf e.2)
  return Dict.ofList entries

def bindingsOf (v : Value) : Except Fault Bindings := do
  return (← envOf v).map fun e => (.text e.1, e.2)

def patternsOf (v : Value) : Except Fault (List String) := do
  match v.opened with
  | .scalar .null => return []
  | _ => optional [] (listOf wordOf) (Dict.get? (← entriesOf v) (.text "branches"))

def triggerOf (v : Value) : Except Fault Trigger := do
  match v.opened with
  | .scalar (.text kind) => return { kinds := [.text kind] }
  | .list kinds => return { kinds := (← kinds.mapM wordOf).map .text }
  | _ =>
    let entries ← entriesOf v
    let branches ← entries.mapM fun e => do return (e.1, ← patternsOf e.2)
    return { kinds := Dict.keys entries, branches := branches.filter fun b => !b.2.isEmpty }

def overlaysOf (v : Value) : Except Fault (Dict String Env) := do
  let overlays ← (← entriesOf v).mapM fun e => do
    return (← textOf (.scalar e.1), ← envOf e.2)
  return Dict.ofList overlays

def strayOverlays (a : Axis) : List String :=
  ((Dict.keys a.overlays).filter fun v => !a.values.contains v).mergeSort
    fun s t => decide (s ≤ t)

def axisOf (job name : Scalar) (v : Value) : Except Fault Axis := do
  match v.opened with
  | .map fields =>
    let values ← optional [] (listOf textOf) (Dict.get? fields (.text "values"))
    let overlays ← optional [] overlaysOf (Dict.get? fields (.text "env"))
    let a : Axis := { name, values, overlays }
    if (strayOverlays a).isEmpty then return a
    else throw (.config (.overlayOfUndeclared name job (strayOverlays a)))
  | _ => return { name, values := ← listOf textOf v }

def isReserved (name : Scalar) : Bool :=
  name == .text "include" || name == .text "exclude"

def axesOf (job : Scalar) (entries : List (Scalar × Value)) : Except Fault (List Axis) :=
  (entries.filter fun e => !isReserved e.1).mapM fun e => axisOf job e.1 e.2

/-- What a matrix declares: its axes, its additions and its exclusions. -/
structure Matrix where
  axes : List Axis := []
  additions : List Bindings := []
  exclusions : List Bindings := []

def matrixOf (job : Scalar) (v : Value) : Except Fault Matrix := do
  let entries ← entriesOf v
  if entries.isEmpty then throw (.config (.emptyMatrix job))
  let axes ← axesOf job entries
  let additions ← optional [] (listOf bindingsOf) (Dict.get? entries (.text "include"))
  let exclusions ← optional [] (listOf bindingsOf) (Dict.get? entries (.text "exclude"))
  return { axes, additions, exclusions }

def commandOf (v : Value) : Except Fault Command := do
  match v.opened with
  | .scalar (.text line) => return .line line
  | _ => return .argv (← listOf wordOf v)

def secondsOf (v : Value) : Except Fault Number :=
  match v.opened.number? with
  | none => .error .mismatch
  | some n =>
    match n.toDouble? with
    | none => .error .numberTooLarge
    | some x => .ok (.float (x.mul (.ofRat 60)))

def stepOf (v : Value) : Except Fault Step := do
  let fields ← entriesOf v
  let command ← commandOf (← required fields "run")
  let name ← optional "" wordOf (Dict.get? fields (.text "name"))
  let directory ← (Dict.get? fields (.text "working-directory")).mapM wordOf
  let env ← optional [] envOf (Dict.get? fields (.text "env"))
  let timeout ← (Dict.get? fields (.text "timeout-minutes")).mapM secondsOf
  return { command, name, directory, env, timeout }

def jobOf (id : Scalar) (v : Value) : Except Fault Template := do
  let fields ← entriesOf v
  let m ← optional {} (matrixOf id) (Dict.get? fields (.text "matrix"))
  let name ← optional "" wordOf (Dict.get? fields (.text "name"))
  let steps ← optional [] (listOf stepOf) (Dict.get? fields (.text "steps"))
  let env ← optional [] envOf (Dict.get? fields (.text "env"))
  let t : Template :=
    { id, steps, axes := m.axes, name, env, additions := m.additions, exclusions := m.exclusions }
  t.validate.mapError .config
  return t

/-- A document in which the key that reads as a truth value, or equals it, is the key `on`. -/
def withTriggerKey (entries : List (Scalar × Value)) : List (Scalar × Value) :=
  match Dict.get? entries (.bool true) with
  | some v => Dict.put (Dict.erase entries (.bool true)) (.text "on") v
  | none => entries

def checkShape (doc : Value) : Except Fault Unit :=
  match Violation.report (Schema.violations shape doc) with
  | .clean => .ok ()
  | .found path message => .error (.config (.invalid path message))
  | .incomparable => .error .mismatch
  | .unsayable => .error .tooLongToShow

def build (doc : Value) : Except Fault Pipeline := do
  match doc.opened with
  | .map entries =>
    let fields := withTriggerKey entries
    checkShape (.map fields)
    let templates ← (← entriesOf (← required fields "jobs")).mapM fun e => jobOf e.1 e.2
    let trigger ← optional {} triggerOf (Dict.get? fields (.text "on"))
    let env ← optional [] envOf (Dict.get? fields (.text "env"))
    return { templates, trigger, env }
  | _ => throw (.config .notMapping)

def log (p : Pipeline) : List LogEntry :=
  [⟨.debug, .declaration, s!"Parsed declaration with {p.templates.length} job(s)"⟩]

end Declaration

end JobMatrix
