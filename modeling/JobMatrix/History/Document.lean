import JobMatrix.History.Store

/-! A history store as a document: a list of rows for each table. -/

namespace JobMatrix.History

namespace Cell

def document : Cell → Value
  | null => .null
  | int n => .int n
  | real x => .float x
  | text s => .text s
  | bytes data => .list (data.map fun b => .nat b.toNat)

def byteOf? : Value → Option UInt8
  | .scalar (.int n) => some (UInt8.ofNat n.toNat)
  | _ => none

def ofDocument? : Value → Option Cell
  | .scalar .null => some null
  | .scalar (.int n) => some (int n)
  | .scalar (.float x) => some (real x)
  | .scalar (.text s) => some (text s)
  | .list items => (items.mapM byteOf?).map bytes
  | _ => none

end Cell

namespace Row

def document (r : Row) : Value :=
  .list (.int r.number :: r.cells.map fun c => .list [.text c.1, c.2.document])

def cellOf? : Value → Option (String × Cell)
  | .list [.scalar (.text name), v] => (Cell.ofDocument? v).map (name, ·)
  | _ => none

def ofDocument? : Value → Option Row
  | .list (.scalar (.int number) :: cells) => (cells.mapM cellOf?).map (⟨number, ·⟩)
  | _ => none

end Row

namespace Store

def document (s : Store) : Value :=
  .list (.int s.lastStep :: Table.all.map fun t => .list ((s.rows t).map Row.document))

def rowsOf? : Value → Option (List Row)
  | .list rows => rows.mapM Row.ofDocument?
  | _ => none

def ofDocument? : Value → Option Store
  | .list [.scalar (.int lastStep), runs, jobs, steps] => do
    return { runs := ← rowsOf? runs, jobs := ← rowsOf? jobs, steps := ← rowsOf? steps, lastStep }
  | _ => none

/-- The text of a store; it starts with a line that no declaration has. -/
def heading : String := "history of runs\n"

def text? (s : Store) : Option String :=
  (Json.write .compact s.document).toOption.map (heading ++ ·)

def ofText? (text : String) : Option Store :=
  if text.startsWith heading then
    (Json.read (String.ofList (text.toList.drop heading.length))).toOption.bind ofDocument?
  else none

end Store

end JobMatrix.History
