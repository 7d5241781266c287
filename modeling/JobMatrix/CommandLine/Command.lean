import JobMatrix.CommandLine.Form
import JobMatrix.ConfigError
import JobMatrix.Number.Read
import JobMatrix.Settings

/-! The commands of the program, read from words. -/

namespace JobMatrix.CommandLine

structure RunOptions where
  declaration : Option String := none
  event : String := "push"
  ref : Option String := none
  workers : Option Int := none
  stepTimeout : Option Double := none
  jobTimeout : Option Double := none
  failFast : Option Bool := none
  showOutput : Bool := false
  env : List String := []
  workspace : Option String := none
  json : Bool := false
  db : Option String := none
  noHistory : Bool := false
  hooks : Bool := false
  verbose : Bool := false
deriving Inhabited

inductive Command where
  | run (o : RunOptions)
  | validate (declaration : Option String)
  | expand (declaration : Option String) (json : Bool)
  | history (run db : Option String) (limit : Int)
  | init (path : Option String) (force : Bool)
  | config (key value : Option String)
  | help (form : Option Form)

/-- Variables given as `KEY=VALUE`; a later value of a key wins. -/
def «variables» (pairs : List String) : Except ConfigError Env :=
  pairs.foldlM (fun env pair =>
    let key := pair.toList.takeWhile (· != '=')
    if key.length == pair.length then .error (.malformedVariable pair)
    else .ok (Dict.put env (String.ofList key) (String.ofList (pair.toList.drop (key.length + 1)))))
    []

namespace Parts

def text? (p : Parts) (key : Parameter) : Option String :=
  p.options.reverse.findSome? fun o => match o with
    | (k, .text s) => if k == key then some s else none
    | _ => none

def texts (p : Parts) (key : Parameter) : List String :=
  p.options.filterMap fun o => match o with
    | (k, .text s) => if k == key then some s else none
    | _ => none

def switch? (p : Parts) (key : Parameter) : Option Bool :=
  p.options.reverse.findSome? fun o => match o with
    | (k, .switch on) => if k == key then some on else none
    | _ => none

def isOn (p : Parts) (key : Parameter) : Bool := (p.switch? key).getD false

def order (p : Parts) : List Parameter := (p.options.map (·.1)).eraseDups

end Parts

def integer? (s : String) : Option Int :=
  if Scalar.digitLimit < Settings.digitCount s then none else Number.readInt? s

def problem? (p : Parameter) (s : String) : Option String :=
  let refused (valid : Bool) (kind : String) : Option String :=
    if valid then none else some (Text.literal s ++ " is not a valid " ++ kind ++ ".")
  match p with
  | .workers =>
    match integer? s with
    | none => refused false "integer range"
    | some n => if n < 1 then some (toString n ++ " is not in the range x>=1.") else none
  | .limit => refused (integer? s).isSome "integer"
  | .stepTimeout => refused (Number.readDouble? s).isSome "float"
  | .jobTimeout => refused (Number.readDouble? s).isSome "float"
  | _ => none

/-- The first thing that is wrong with the values of options, in the order in which they were given,
or else with the number of words. -/
def misuse? (f : Form) (p : Parts) : Option Misuse :=
  let values := p.order.findSome? fun key =>
    ((p.text? key).bind (problem? key)).map (Misuse.badValue (f.hint key))
  let extra := p.words.drop f.arguments.length
  values <|> if extra.isEmpty then none else some (.tooMany extra)

def Command.ofParts (f : Form) (p : Parts) : Command :=
  let first := p.words[0]?
  let second := p.words[1]?
  if p.isOn .help then .help (some f)
  else match f.name with
    | "validate" => .validate first
    | "expand" => .expand first (p.isOn .json)
    | "history" => .history first (p.text? .db) (((p.text? .limit).bind integer?).getD 20)
    | "init" => .init first (p.isOn .force)
    | "config" => .config first second
    | _ => .run
      { declaration := first
        event := (p.text? .event).getD "push"
        ref := p.text? .ref
        workers := (p.text? .workers).bind integer?
        stepTimeout := (p.text? .stepTimeout).bind Number.readDouble?
        jobTimeout := (p.text? .jobTimeout).bind Number.readDouble?
        failFast := p.switch? .failFast
        showOutput := p.isOn .showOutput
        env := p.texts .env
        workspace := p.text? .workspace
        json := p.isOn .json
        db := p.text? .db
        noHistory := p.isOn .noHistory
        hooks := p.isOn .hooks
        verbose := p.isOn .verbose }

def outer : Form := { name := "", spellings := [Form.helpSpelling], arguments := [] }

def Command.parse (words : List String) : Except (Option Form × Misuse) Command := do
  if words.isEmpty then return .help none
  let p ← (outer.parts false words).mapError fun m => (none, m)
  if p.isOn .help then return .help none
  match p.words with
  | [] => throw (none, .missingCommand)
  | name :: rest =>
    match Form.all.find? (·.name == name) with
    | none =>
      if Form.isOption name then
        let _ ← (outer.parts false (name :: rest)).mapError fun m => ((none : Option Form), m)
      throw (none, .noCommand name)
    | some f =>
      let parts ← (f.parts true rest).mapError fun m => (some f, m)
      match misuse? f parts with
      | some m => if parts.isOn .help then return .help (some f) else throw (some f, m)
      | none => return Command.ofParts f parts

end JobMatrix.CommandLine
