import JobMatrix.ConfigError
import JobMatrix.Log
import JobMatrix.Placeholder
import JobMatrix.Template
import JobMatrix.Value.Order

/-! Expansion of a template: the product of its axes, less the exclusions and with the additions,
and one instance of the job for each combination, in which every placeholder is filled. -/

namespace JobMatrix

def substitute (text : String) (bindings : Bindings) : Except ConfigError String :=
  match Placeholder.fill (fun axis => Dict.get? bindings (.text axis))
      (Placeholder.pieces text.toList) with
  | .ok s => .ok (String.ofList s)
  | .error axis => .error (.unboundReference axis text)

def Step.texts (s : Step) : List String :=
  s.command.texts ++ [s.name] ++ (s.directory.filter (!·.isEmpty)).toList ++ Dict.values s.env

namespace Template

def repeats : List Scalar → Bool
  | [] => false
  | a :: rest => rest.any (· == a) || repeats rest

def known (t : Template) : List Scalar :=
  t.axisNames ++ t.additions.flatMap Dict.keys

/-- The texts of a template in which placeholders may stand, in the order in which they are
checked. -/
def texts (t : Template) : List String :=
  t.steps.flatMap Step.texts ++ [t.name] ++ Dict.values t.env

def undeclared (t : Template) (entry : Bindings) : List Scalar :=
  (Dict.keys entry).filter fun k => !t.axisNames.any (· == k)

/-- The error on an exclusion that names undeclared axes, which are given in order if they have
one. -/
def exclusionError (t : Template) (axes : List Scalar) : ConfigError :=
  match Scalar.sortOn? (fun axis => axis) axes with
  | some axes => .exclusionOfUndeclared t.id axes
  | none => .exclusionOfUnordered t.id

def missing? (t : Template) (text : String) : Option String :=
  (Placeholder.referenced text).find? fun axis => !t.known.any (· == .text axis)

/-- Refuses a template that cannot be expanded: one without steps, with an axis declared twice or
without values, or with an exclusion or a placeholder that names an unknown axis. -/
def validate (t : Template) : Except ConfigError Unit :=
  if t.steps.isEmpty then .error (.noSteps t.id)
  else if repeats t.axisNames then .error (.duplicateAxes t.id t.axisNames)
  else
    match t.axes.find? (·.values.isEmpty) with
    | some a => .error (.axisWithoutValues a.name t.id)
    | none =>
      match t.exclusions.find? fun e => !(t.undeclared e).isEmpty with
      | some entry => .error (t.exclusionError (t.undeclared entry))
      | none =>
        match t.texts.findSome? t.missing? with
        | some axis => .error (.undeclaredReference t.id axis t.axisNames)
        | none => .ok ()

/-- The combinations of the values of axes, the first axis varying slowest. -/
def product : List Axis → List Bindings
  | [] => [[]]
  | a :: rest => a.values.flatMap fun v => (product rest).map ((a.name, v) :: ·)

/-- Whether bindings give every key of `entry` the same value. -/
def agrees (bindings entry : Bindings) : Bool :=
  entry.all fun e => Dict.get? bindings e.1 == some e.2

def declaredPart (names : List Scalar) (entry : Bindings) : Bindings :=
  entry.filter fun e => names.any (· == e.1)

/-- Whether an addition extends a combination: it binds some declared axes as the combination does,
and some other names besides. -/
def fits (names : List Scalar) (entry combo : Bindings) : Bool :=
  let part := declaredPart names entry
  !part.isEmpty && part.length < entry.length && agrees combo part

/-- The combination with the names that it lacks bound as in the addition. -/
def extended (combo entry : Bindings) : Bindings :=
  entry.foldl (fun acc e => Dict.putNew acc e.1 e.2) combo

/-- Applies one addition: it extends every combination that it fits, and if it fits none it is a
combination of its own, unless an equal one is there. -/
def add (names : List Scalar) (combos : List Bindings) (entry : Bindings) : List Bindings :=
  if combos.any (fits names entry) then
    combos.map fun c => if fits names entry c then extended c entry else c
  else if combos.any (Dict.same · entry) then combos
  else combos ++ [entry]

def bindings (t : Template) : List Bindings :=
  let all := if t.axes.isEmpty then [] else (product t.axes).map (Dict.merge [])
  let kept := all.filter fun c => !t.exclusions.any (agrees c)
  t.additions.foldl (add t.axisNames) kept

def combinations (t : Template) : Except ConfigError (List Bindings) :=
  if t.bindings.isEmpty then .error (.noCombinations t.id) else .ok t.bindings

end Template

def bindEnv (bindings : Bindings) (env : Env) : Except ConfigError Env :=
  env.mapM fun e => do return (e.1, ← substitute e.2 bindings)

def Step.bind (bindings : Bindings) (s : Step) : Except ConfigError Step := do
  let command ← match s.command with
    | .line text => Command.line <$> substitute text bindings
    | .argv words => Command.argv <$> words.mapM (substitute · bindings)
  let name ← substitute s.name bindings
  let directory ← (s.directory.filter (!·.isEmpty)).mapM (substitute · bindings)
  let env ← bindEnv bindings s.env
  return { command, name, directory, env, timeout := s.timeout }

namespace Template

/-- The name of an instance: the template's with its placeholders filled or, when it has none, with
the bound values after it. -/
def instanceName (t : Template) (bindings : Bindings) : Except ConfigError String :=
  if t.name.isEmpty then .ok ""
  else if !(Placeholder.references t.name).isEmpty || bindings.isEmpty then
    substitute t.name bindings
  else .ok (t.name ++ " (" ++ ", ".intercalate (Dict.values bindings) ++ ")")

def instanceEnv (t : Template) (bindings : Bindings) : Except ConfigError Env := do
  let base ← bindEnv bindings t.env
  return t.axes.foldl (fun env a =>
    match Dict.get? bindings a.name with
    | some value => Dict.merge env (a.overlay value)
    | none => env) base

def bind (t : Template) (index : Int) (bindings : Bindings) : Except ConfigError Instance := do
  let env ← t.instanceEnv bindings
  let steps ← t.steps.mapM (Step.bind bindings)
  let name ← t.instanceName bindings
  return { template := t.id, index, bindings, steps, env, name }

def hasMatrix (t : Template) : Bool := !t.axes.isEmpty || !t.additions.isEmpty

/-- The instances for a list of combinations, numbered from `start`. -/
def bindAll (t : Template) : Int → List Bindings → Except ConfigError (List Instance)
  | _, [] => .ok []
  | start, b :: rest => do
    let i ← t.bind start b
    let is ← t.bindAll (start + 1) rest
    return i :: is

/-- The instances of a template in order, numbered from `start`. A template without a matrix has
one, with the template's own steps. -/
def expand (t : Template) (start : Int := 0) : Except ConfigError (List Instance) := do
  t.validate
  if t.hasMatrix then t.bindAll start (← t.combinations)
  else
    return [{ template := t.id, index := start, bindings := [], steps := t.steps, env := t.env,
              name := t.name }]

def expandFrom : Int → List Template → Except ConfigError (List Instance)
  | _, [] => .ok []
  | start, t :: rest => do
    let is ← t.expand start
    let others ← expandFrom (start + is.length) rest
    return is ++ others

def expandAll (ts : List Template) : Except ConfigError (List Instance) :=
  expandFrom 0 ts

def expansionLog : List Template → List LogEntry
  | [] => []
  | t :: rest =>
    match t.expand with
    | .error _ => []
    | .ok is =>
      let own : List LogEntry := if t.hasMatrix then
          [⟨.debug, .matrix, s!"Expanded job '{t.id.display}' into {is.length} instance(s)"⟩]
        else []
      own ++ expansionLog rest

end Template

end JobMatrix
