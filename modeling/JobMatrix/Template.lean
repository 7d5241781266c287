import JobMatrix.Number.Basic
import JobMatrix.Value.Literal

/-! Jobs and their steps: a template is a sequence of steps with matrix axes, an instance is one run
of these steps for one choice of a value on each axis. -/

namespace JobMatrix

/-- What a step runs: a line for the shell, or a program and its arguments. -/
inductive Command where
  | line (text : String)
  | argv (words : List String)
deriving DecidableEq, Repr, Inhabited

namespace Command

def display : Command → String
  | line text => text
  | argv words => " ".intercalate words

def usesShell : Command → Bool
  | line _ => true
  | argv _ => false

def words : Command → List String
  | line text => ["/bin/sh", "-c", text]
  | argv words => words

def texts : Command → List String
  | line text => [text]
  | argv words => words

end Command

/-- One unit of work. The timeout is in seconds. -/
structure Step where
  command : Command
  name : String := ""
  directory : Option String := none
  env : Env := []
  timeout : Option Number := none
deriving Repr, Inhabited

def Step.label (s : Step) : String :=
  if s.name.isEmpty then s.command.display else s.name

/-- Names of axes with the values bound to them. -/
abbrev Bindings := Dict Scalar String

/-- A dimension of a matrix. An overlay gives variables that are set when its value is bound. -/
structure Axis where
  name : Scalar
  values : List String
  overlays : Dict String Env := []
deriving Repr, Inhabited

def Axis.overlay (a : Axis) (value : String) : Env :=
  (Dict.get? a.overlays value).getD []

/-- A job with its matrix: the additions are bindings that the product of the axes is extended
with, the exclusions are bindings that are taken out of it. -/
structure Template where
  id : Scalar
  steps : List Step
  axes : List Axis := []
  name : String := ""
  env : Env := []
  additions : List Bindings := []
  exclusions : List Bindings := []
deriving Repr, Inhabited

namespace Template

def axisNames (t : Template) : List Scalar := t.axes.map Axis.name

def axis? (t : Template) (name : Scalar) : Option Axis :=
  t.axes.find? fun a => a.name == name

end Template

/-- A job for one combination of axis values, at its place in the order of declaration. -/
structure Instance where
  template : Scalar
  index : Int
  bindings : Bindings
  steps : List Step
  env : Env
  name : String := ""
deriving Repr, Inhabited

namespace Instance

def bound (bindings : Bindings) : String :=
  ", ".intercalate (bindings.map fun b => b.1.display ++ "=" ++ b.2)

def id (i : Instance) : Scalar :=
  if i.bindings.isEmpty then i.template
  else .text (i.template.display ++ " (" ++ bound i.bindings ++ ")")

def displayName (i : Instance) : Scalar :=
  if i.name.isEmpty then i.id else .text i.name

def record (i : Instance) : Value :=
  .object [("id", .scalar i.id), ("template_id", .scalar i.template), ("index", .int i.index),
    ("name", .scalar i.displayName),
    ("bindings", .map (i.bindings.map fun b => (b.1, .text b.2))),
    ("env", .ofEnv i.env), ("steps", .list (i.steps.map fun s => .text s.label))]

end Instance

end JobMatrix
