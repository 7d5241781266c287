import JobMatrix.History.Cell
import JobMatrix.History.Refusal

/-! The history store: runs, the jobs of each run and the step results of each job. Keys are unique,
and a job names a run that is there, a step result a job that is there. -/

namespace JobMatrix.History

inductive Table where
  | runs
  | jobs
  | steps
deriving DecidableEq, Repr

/-- A column: its name, its affinity, and whether it takes the time of insertion by itself. -/
structure Column where
  name : String
  affinity : Affinity := .text
  stamped : Bool := false
deriving DecidableEq, Repr

namespace Table

def name : Table → String
  | runs => "runs"
  | jobs => "jobs"
  | steps => "step_results"

def all : List Table := [runs, jobs, steps]

def columns : Table → List Column
  | runs => [⟨"run_id", .text, false⟩, ⟨"event_kind", .text, false⟩, ⟨"event_ref", .text, false⟩,
      ⟨"start_timestamp", .integer, true⟩, ⟨"end_timestamp", .integer, false⟩,
      ⟨"status", .text, false⟩, ⟨"report_json", .text, false⟩]
  | jobs => [⟨"job_id", .text, false⟩, ⟨"run_id", .text, false⟩, ⟨"instance_id", .text, false⟩,
      ⟨"execution_order", .integer, false⟩, ⟨"bindings_json", .text, false⟩,
      ⟨"status", .text, false⟩, ⟨"failed_at", .integer, false⟩]
  | steps => [⟨"output_id", .integer, false⟩, ⟨"job_id", .text, false⟩,
      ⟨"step_index", .integer, false⟩, ⟨"name", .text, false⟩, ⟨"command", .text, false⟩,
      ⟨"status", .text, false⟩, ⟨"returncode", .integer, false⟩, ⟨"error", .text, false⟩,
      ⟨"stdout", .text, false⟩, ⟨"stderr", .text, false⟩, ⟨"duration", .real, false⟩,
      ⟨"timestamp", .integer, true⟩]

def key : Table → String
  | runs => "run_id"
  | jobs => "job_id"
  | steps => "output_id"

def parent? : Table → Option (String × Table)
  | runs => none
  | jobs => some ("run_id", runs)
  | steps => some ("job_id", jobs)

def rowName : Table → String
  | steps => "output_id"
  | _ => "rowid"

end Table

/-- A row: its number and its cells by column. -/
structure Row where
  number : Int
  cells : Dict String Cell
deriving DecidableEq, Repr, Inhabited

def Row.get (r : Row) (column : String) : Cell := (Dict.get? r.cells column).getD .null

/-- The rows of the tables by number, and the greatest number that a step result has had. -/
structure Store where
  runs : List Row := []
  jobs : List Row := []
  steps : List Row := []
  lastStep : Int := 0
deriving DecidableEq, Repr, Inhabited

namespace Store

def rows (s : Store) : Table → List Row
  | .runs => s.runs
  | .jobs => s.jobs
  | .steps => s.steps

def withRows (s : Store) (t : Table) (rows : List Row) : Store :=
  match t with
  | .runs => { s with runs := rows }
  | .jobs => { s with jobs := rows }
  | .steps => { s with steps := rows }

def lower (s : String) : String := s.map Char.toLower

def table? (name : String) : Option Table :=
  Table.all.find? fun t => t.name == lower name

def tableNamed (name : String) : Except Refusal Table :=
  match table? name with
  | some t => .ok t
  | none => .error (.noTable name)

/-- A column by its name in any case; a row number by any of its names. -/
def column? (t : Table) (name : String) : Option Column :=
  match t.columns.find? fun c => c.name == lower name with
  | some c => some c
  | none =>
    if ["rowid", "oid", "_rowid_"].contains (lower name) then some ⟨t.rowName, .integer, false⟩
    else none

def referencesMet (s : Store) (t : Table) : Bool :=
  match t.parent? with
  | none => true
  | some (column, parent) =>
    (s.rows t).all fun r => r.get column == .null ||
      (s.rows parent).any fun p => (p.get parent.key).equal (r.get column)

def keysClash (t : Table) : List Row → Bool
  | [] => false
  | r :: rest => rest.any (fun q => (q.get t.key).equal (r.get t.key)) || keysClash t rest

def place (r : Row) : List Row → List Row
  | [] => [r]
  | q :: rest => if r.number < q.number then r :: q :: rest else q :: place r rest

def lastNumber : Int := 2 ^ 63 - 1

def freeBelow (rows : List Row) : Nat → Int → Int
  | 0, n => n
  | fuel + 1, n => if rows.any (·.number == n) then freeBelow rows fuel (n - 1) else n

/-- The number of the row to come. A step result has a greater one than all before it; other rows
take a free number once the greatest is taken. -/
def nextNumber (s : Store) (t : Table) : Except Refusal Int :=
  let rows := s.rows t
  let last := rows.foldl (fun m r => max m r.number) 0
  match t with
  | .steps =>
    let last := max last s.lastStep
    if last < lastNumber then .ok (last + 1) else .error .full
  | _ => .ok (if last < lastNumber then last + 1 else freeBelow rows rows.length lastNumber)

def checked (s : Store) (t : Table) : Except Refusal Store :=
  if keysClash t (s.rows t) then .error (.duplicate t.name t.key)
  else if s.referencesMet .jobs && s.referencesMet .steps then .ok s
  else .error .missingParent

/-- Values as cells, collections as JSON; the outer failure is a value that has no JSON form. -/
def cellsOf : List (String × Value) → Except Json.Obstacle (List (String × Except Refusal Cell))
  | [] => .ok []
  | (name, v) :: rest => do
    let c ← Cell.ofValue v
    return (name, c) :: (← cellsOf rest)

def bound : List (String × Except Refusal Cell) → Except Refusal (List (String × Cell))
  | [] => .ok []
  | (_, .error r) :: _ => .error r
  | (name, .ok c) :: rest => (bound rest).map ((name, c) :: ·)

/-- The columns that names refer to, or the first name that refers to none. -/
def columnsOf (t : Table) (refuse : String → Refusal) :
    List String → Except Refusal (List Column)
  | [] => .ok []
  | n :: rest =>
    match column? t n with
    | none => .error (refuse n)
    | some c => (columnsOf t refuse rest).map (c :: ·)

def numberOf (s : Store) (t : Table) (given : Dict String Cell) : Except Refusal Int :=
  match Affinity.integer.apply ((Dict.get? given t.rowName).getD .null) with
  | .null => s.nextNumber t
  | .int n =>
    if (s.rows t).any (·.number == n) then .error (.duplicate t.name t.rowName) else .ok n
  | _ => .error .wrongType

/-- A new row: given cells in the form of their columns, the time where a column is stamped, and
nothing elsewhere. -/
def newRow (t : Table) (number : Int) (now : String) (given : Dict String Cell) : Row :=
  { number
    cells := t.columns.map fun c =>
      (c.name, if c.name == t.rowName then .int number
        else match Dict.get? given c.name with
          | some cell => c.affinity.apply cell
          | none => if c.stamped then .text now else .null) }

def grown (s : Store) (t : Table) (r : Row) : Store :=
  let s' := s.withRows t (place r (s.rows t))
  match t with
  | .steps => { s' with lastStep := max s'.lastStep r.number }
  | _ => s'

def insert (s : Store) (table now : String) (row : List (String × Except Refusal Cell)) :
    Except Refusal Store := do
  if table.isEmpty then throw (.nearToken "(")
  if row.isEmpty then throw (.nearToken ")")
  let t ← tableNamed table
  let columns ← columnsOf t (.noColumnIn table) (row.map (·.1))
  let cells ← bound row
  let given := (columns.zip cells).foldl (fun d p => Dict.putNew d p.1.name p.2.2) []
  let number ← s.numberOf t given
  (s.grown t (newRow t number now given)).checked t

def matchesCell (t : Table) (c : Column) (cell : Cell) (r : Row) : Bool :=
  let own := if c.name == t.rowName then .int r.number else r.get c.name
  own.equal (c.affinity.apply cell)

def changeCell (t : Table) (r : Row) (u : Column × Cell) : Except Refusal Row :=
  let cell := u.1.affinity.apply u.2
  let cells := if Dict.contains r.cells u.1.name then Dict.put r.cells u.1.name cell else r.cells
  if u.1.name == t.rowName then
    match cell with
    | .int n => .ok { number := n, cells }
    | _ => .error .wrongType
  else .ok { r with cells }

def change (t : Table) (updates : List (Column × Cell)) (r : Row) : Except Refusal Row :=
  updates.foldlM (changeCell t) r

def numbersClash : List Row → Bool
  | a :: b :: rest => a.number == b.number || numbersClash (b :: rest)
  | _ => false

/-- A condition on rows: the columns that it names, each with a value, and how a row is tested
against these. -/
structure Condition where
  terms : List (String × Except Refusal Cell)
  test : Table → List (Column × Cell) → Row → Except Refusal Bool

def Condition.equals (column : String) (value : Except Refusal Cell) : Condition where
  terms := [(column, value)]
  test t terms r := .ok (terms.all fun p => matchesCell t p.1 p.2 r)

def changeWhere (t : Table) (updates : List (Column × Cell)) (test : Row → Except Refusal Bool)
    (rows : List Row) : Except Refusal (List Row) :=
  rows.mapM fun r => do if ← test r then change t updates r else return r

def updateWhere (s : Store) (table : String) (changes : List (String × Except Refusal Cell))
    (c : Condition) : Except Refusal Store := do
  if changes.isEmpty then throw (.nearToken "WHERE")
  let t ← tableNamed table
  let columns ← columnsOf t .noColumn ((changes ++ c.terms).map (·.1))
  let cells ← bound (changes ++ c.terms)
  let pairs := columns.zip (cells.map (·.2))
  let rows ← changeWhere t (pairs.take changes.length) (c.test t (pairs.drop changes.length))
    (s.rows t)
  let s' := s.withRows t (rows.foldl (fun acc r => place r acc) [])
  if numbersClash (s'.rows t) then throw (.duplicate t.name t.rowName)
  s'.checked t

/-- Replaces cells of the rows whose `column` equals a value. -/
def update (s : Store) (table : String) (changes : List (String × Except Refusal Cell))
    (column : String) (value : Except Refusal Cell) : Except Refusal Store :=
  s.updateWhere table changes (.equals column value)

def selected (t : Table) (columns : String) : Except Refusal (List Column) :=
  let names := (columns.toList.splitOn ',').map fun n => String.ofList (Text.strip n)
  if names == ["*"] then .ok t.columns
  else if names == [""] then .error (.nearToken "FROM")
  else columnsOf t .noColumn names

def pick (t : Table) (columns : List Column) (r : Row) : Dict String Cell :=
  Dict.ofList (columns.map fun c =>
    (c.name, if c.name == t.rowName then .int r.number else r.get c.name))

/-- The rows of a table by number, restricted to those whose `column` equals a value if one is
given. -/
def select (s : Store) (table columns : String) (filter : Option (String × Except Refusal Cell)) :
    Except Refusal (List (Dict String Cell)) := do
  let t ← match table? table with
    | some t => pure t
    | none => throw (if columns.isEmpty then .nearToken "FROM" else .noTable table)
  let cs ← selected t columns
  match filter with
  | none => return (s.rows t).map (pick t cs)
  | some (name, value) =>
    let c ← match column? t name with
      | some c => pure c
      | none => throw (.noColumn name)
    match value with
    | .error r => throw r
    | .ok cell => return ((s.rows t).filter (matchesCell t c cell)).map (pick t cs)

end Store

end JobMatrix.History
