import JobMatrix.Declaration.File
import JobMatrix.Number.Read
import JobMatrix.Project
import JobMatrix.Text.Blank
import JobMatrix.Yaml.Write

/-! Settings: a file of a project laid over a file in the home directory. A key that both have takes
its value from the first. -/

namespace JobMatrix

open JobMatrix.Path (Place)

/-- The keys that the program itself reads. -/
inductive Key where
  | maxWorkers
  | stepTimeout
  | jobTimeout
  | failFast
  | showOutput
  | dbPath
  | logLevel
deriving DecidableEq, Repr

namespace Key

def name : Key → String
  | maxWorkers => "max_workers"
  | stepTimeout => "step_timeout"
  | jobTimeout => "job_timeout"
  | failFast => "fail_fast"
  | showOutput => "show_output"
  | dbPath => "db_path"
  | logLevel => "log_level"

def all : List Key :=
  [maxWorkers, stepTimeout, jobTimeout, failFast, showOutput, dbPath, logLevel]

end Key

abbrev Entries := Dict Scalar Value

/-- The settings in force: the file that is edited with its entries, and the entries below them. The
label is that of the file's own entries, where they stand inside themselves. -/
structure Settings where
  path : Path
  layered : Bool
  own : Entries := []
  label : Option Nat := none
  below : Entries := []
deriving Inhabited

namespace Settings

def homePath (home : String) : Path := Path.ofText home / ".matrixci.yaml"

/-- The entries of a settings file and their label; a missing or empty file has none. -/
def entriesAt (t : FileTree) (cwd : Place) (p : Path) : Except Fault (Entries × Option Nat) := do
  let there ← (t.present cwd p).mapError fun e => .system e p.text
  if !there then return ([], none)
  let text ← (t.readText cwd p).mapError fun e => .settingsUnreadable p.text (e.text p.text)
  match Yaml.load text with
  | .error (.problem e) => throw (.settingsUnreadable p.text e.message)
  | .error (.fault f) => throw f
  | .ok v =>
    if !v.truthy then return ([], none)
    match v with
    | .map entries => return (entries, none)
    | .shared label (.map entries) => return (entries, some label)
    | _ => throw (.settingsNotMapping p.text)

def closed (entries : Entries) (label : Option Nat) (v : Value) : Value :=
  match label with
  | some l => Value.close l (.shared l (.map entries)) v
  | none => v

/-- Reads the files anew. When the second cannot be read the first has been read. -/
def reload (s : Settings) (t : FileTree) (home : String) (cwd : Place) :
    Settings × Option Fault :=
  match entriesAt t cwd s.path with
  | .error f => (s, some f)
  | .ok (own, label) =>
    let s := { s with own, label }
    if s.layered && s.path != homePath home then
      match entriesAt t cwd (homePath home) with
      | .ok (below, label) =>
        ({ s with below := below.map fun e => (e.1, closed below label e.2) }, none)
      | .error f => (s, some f)
    else ({ s with below := [] }, none)

/-- The settings of a file, over those of the home directory if `layered`. -/
def load (t : FileTree) (home : String) (cwd : Place) (path : Path) (layered : Bool) :
    Except Fault Settings :=
  match reload { path, layered } t home cwd with
  | (s, none) => .ok s
  | (_, some f) => .error f

/-- The settings that hold at a place: those of its project over those of the home directory, or the
latter alone outside a project. -/
def around (t : FileTree) (home : String) (cwd start : Place) : Except Fault Settings :=
  match Project.settings? t start with
  | some place => Settings.load t home cwd (.ofPlace place) true
  | none => Settings.load t home cwd (homePath home) false

def get? (s : Settings) (key : Scalar) : Option Value :=
  match Dict.get? s.own key with
  | some v => some (closed s.own s.label v)
  | none => Dict.get? s.below key

def get (s : Settings) (key : Scalar) (default : Value := .null) : Value :=
  (s.get? key).getD default

def set (s : Settings) (key : Scalar) (v : Value) : Settings :=
  { s with own := Dict.put s.own key v }

def document (s : Settings) : Value :=
  match s.label with
  | some l => .shared l (.map s.own)
  | none => .map s.own

/-- Writes the file's own entries, making its directory if need be: the tree after it, and what went
wrong. A file whose entries cannot be written is left empty. -/
def save (s : Settings) (t : FileTree) (cwd : Place) : FileTree × Option Fault :=
  let refused (e : SystemError) (p : Path) : Option Fault :=
    some (.settingsUnwritable s.path.text (e.text p.text))
  match t.makeDirectories cwd s.path.anchor s.path.parent.names with
  | .error e => (t, refused e.1 e.2)
  | .ok t =>
    let doc := s.document
    let fault := if Yaml.writeLimit < doc.height then some .tooDeep
      else if doc.isShowable then none else some .tooLongToShow
    let text := if fault.isSome then "" else Yaml.write doc
    match t.write cwd s.path (Text.bytes text) with
    | .ok t => (t, fault)
    | .error e => (t, refused e s.path)

def merged (s : Settings) : Entries :=
  Dict.merge s.below (s.own.map fun e => (e.1, closed s.own s.label e.2))

/-- Whether a value switches something on: a text says so by a word for it, anything else by being
true. The words have ASCII letters only, and no other letter has a small form among these. -/
def isOn : Value → Bool
  | .scalar (.text s) =>
    let word := String.ofList ((Text.strip s.toList).map Char.toLower)
    ["1", "true", "yes", "on"].contains word
  | v => v.truthy

def digitCount (s : String) : Nat := (s.toList.filter fun c => (Text.digitValue? c).isSome).length

def asciiText? (data : List UInt8) : Option String :=
  if data.all (· < 0x80) then some (String.ofList (data.map fun b => Char.ofNat b.toNat)) else none

/-- A value as a whole number: a number loses its fraction, a text is read. -/
def asInt : Value → Except Fault Int
  | .scalar (.bool b) => .ok (if b then 1 else 0)
  | .scalar (.int n) => .ok n
  | .scalar (.float x) =>
    match x with
    | .undefined => .error .nanToInt
    | .infinite _ => .error .infinityToInt
    | x => .ok (x.truncate?.getD 0)
  | .scalar (.text s) =>
    match Number.readInt? s with
    | some n => if Scalar.digitLimit < digitCount s then .error (.tooManyDigits (digitCount s)) else .ok n
    | none => .error (.notInteger 10 s)
  | .scalar (.bytes data) =>
    match (asciiText? data).bind Number.readInt? with
    | some n => .ok n
    | none => .error (.bytesNotInteger data)
  | _ => .error .mismatch

def asDouble : Value → Except Fault Double
  | .scalar (.bool b) => .ok (.ofRat (if b then 1 else 0))
  | .scalar (.int n) =>
    match Double.ofInt? n with
    | some x => .ok x
    | none => .error .numberTooLarge
  | .scalar (.float x) => .ok x
  | .scalar (.text s) =>
    match Number.readDouble? s with
    | some x => .ok x
    | none => .error (.notNumber s)
  | .scalar (.bytes data) =>
    match (asciiText? data).bind Number.readDouble? with
    | some x => .ok x
    | none => .error (.bytesNotNumber data)
  | _ => .error .mismatch

def optional {α : Type} (s : Settings) (key : Key) (read : Value → Except Fault α) :
    Except Fault (Option α) :=
  let v := s.get key.name
  if v.isNull then .ok none else (read v).map some

def maxWorkers (s : Settings) : Except Fault (Option Int) := s.optional .maxWorkers asInt

def stepTimeout (s : Settings) : Except Fault (Option Double) := s.optional .stepTimeout asDouble

def jobTimeout (s : Settings) : Except Fault (Option Double) := s.optional .jobTimeout asDouble

def failFast (s : Settings) : Bool := isOn (s.get Key.failFast.name (.bool false))

def showOutput (s : Settings) : Bool := isOn (s.get Key.showOutput.name (.bool false))

def dbPath (s : Settings) : Value := s.get Key.dbPath.name

def logLevel (s : Settings) : Except Fault String :=
  let v := s.get Key.logLevel.name (.text "WARNING")
  if v.isShowable then .ok v.display else .error .tooLongToShow

end Settings

end JobMatrix
