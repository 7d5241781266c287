import JobMatrix.Value.Literal

/-! The reasons for which the history store refuses a request. -/

namespace JobMatrix.History

inductive Refusal where
  | closed
  | nearToken (token : String)
  | noTable (name : String)
  | noColumnIn (table column : String)
  | noColumn (column : String)
  | tooLarge
  /-- A text with halves of characters in it. -/
  | halves (points : List Nat)
  | duplicate (table column : String)
  | missingParent
  | wrongType
  | full
  | cannotOpen
  | notStore
deriving DecidableEq, Repr

/-- Where the first halves in a text are, and how many stand there in a row. -/
def halvesText (points : List Nat) : String :=
  let start := (points.takeWhile fun n => !Text.isHalf n).length
  let run := (points.drop start).takeWhile Text.isHalf
  "'utf-8' codec can't encode character" ++
    (if run.length == 1 then " " ++ Text.literalPoints run ++ s!" in position {start}"
      else s!"s in position {start}-{start + run.length - 1}") ++ ": surrogates not allowed"

def Refusal.text : Refusal → String
  | closed => "Database connection is not initialized"
  | nearToken token => "near \"" ++ token ++ "\": syntax error"
  | noTable name => "no such table: " ++ name
  | noColumnIn table column => "table " ++ table ++ " has no column named " ++ column
  | noColumn column => "no such column: " ++ column
  | tooLarge => "Python int too large to convert to SQLite INTEGER"
  | halves points => halvesText points
  | duplicate table column => "UNIQUE constraint failed: " ++ table ++ "." ++ column
  | missingParent => "FOREIGN KEY constraint failed"
  | wrongType => "datatype mismatch"
  | full => "database or disk is full"
  | cannotOpen => "unable to open database file"
  | notStore => "file is not a database"

end JobMatrix.History
