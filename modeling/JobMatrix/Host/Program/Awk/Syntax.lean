import JobMatrix.Number.Bits
import JobMatrix.Host.Regex.Read

/-! Programs of patterns and actions: expressions, statements and rules. Texts are texts of bytes, each
character a byte. -/

namespace JobMatrix.Program.Awk

inductive Builtin where
  | length
  | substr
  | index
  | split
  | find
  | sub
  | gsub
  | sprintf
  | int
  | toUpper
  | toLower
deriving DecidableEq, Repr, Inhabited

namespace Builtin

/-- The functions with their names and the least and the greatest number of their arguments. -/
def all : List (String × Builtin × Nat × Nat) :=
  [("length", .length, 0, 1), ("substr", .substr, 2, 3), ("index", .index, 2, 2),
   ("split", .split, 2, 3), ("match", .find, 2, 2), ("sub", .sub, 2, 3), ("gsub", .gsub, 2, 3),
   ("sprintf", .sprintf, 1, 255), ("int", .int, 1, 1), ("toupper", .toUpper, 1, 1),
   ("tolower", .toLower, 1, 1)]

def named? (name : String) : Option Builtin := (all.find? (·.1 == name)).map (·.2.1)

def name (b : Builtin) : String := ((all.find? (·.2.1 == b)).map (·.1)).getD ""

def takes (b : Builtin) (n : Nat) : Bool :=
  all.any fun (_, f, least, most) => f == b && least ≤ n && n ≤ most

end Builtin

inductive Arithmetic where
  | add
  | sub
  | mul
  | div
  | rem
  | pow
deriving DecidableEq, Repr, Inhabited

inductive Relation where
  | lt
  | le
  | eq
  | ne
  | gt
  | ge
deriving DecidableEq, Repr, Inhabited

structure Pattern where
  source : String
  regex : Regex
deriving Inhabited

inductive Expr where
  | number (x : Double)
  | text (s : String)
  | pattern (p : Pattern)
  | name (n : String)
  | item (array : String) (index : List Expr)
  | field (index : Expr)
  | group (e : Expr)
  | not (e : Expr)
  | negate (e : Expr)
  | plus (e : Expr)
  | arithmetic (op : Arithmetic) (a b : Expr)
  | relation (op : Relation) (a b : Expr)
  | concat (a b : Expr)
  | fits (negated : Bool) (a r : Expr)
  | member (index : List Expr) (array : String)
  | and (a b : Expr)
  | or (a b : Expr)
  | choose (c a b : Expr)
  | assign (op : Option Arithmetic) (target value : Expr)
  /-- Adds one or takes one away; the value is that after or before. -/
  | step (up after : Bool) (target : Expr)
  | builtin (b : Builtin) (args : List Expr)
deriving Inhabited

namespace Expr

def isPlace : Expr → Bool
  | name _ => true
  | item _ _ => true
  | field _ => true
  | _ => false

end Expr

inductive Statement where
  | eval (e : Expr)
  /-- What is printed goes to the output or to a file, at its end if it is not to be emptied. -/
  | print (args : List Expr) (target : Option (Bool × Expr))
  | printf (args : List Expr) (target : Option (Bool × Expr))
  | branch (c : Expr) (yes : Statement) (no : Option Statement)
  | loop (c : Expr) (body : Statement)
  | loopAfter (body : Statement) (c : Expr)
  | count (first : Option Expr) (c : Option Expr) (next : Option Expr) (body : Statement)
  | forKeys (name array : String) (body : Statement)
  | block (body : List Statement)
  | next
  | nextFile
  | exit (code : Option Expr)
  | stop
  | again
  | delete (array : String) (index : Option (List Expr))
deriving Inhabited

inductive Trigger where
  | start
  | finish
  | always
  | when (e : Expr)
  | range (first last : Expr)
deriving Inhabited

/-- A trigger and its action; without one the record is printed. -/
structure Rule where
  trigger : Trigger
  action : Option Statement
deriving Inhabited

structure Script where
  rules : List Rule := []
  /-- The variables that are arrays. -/
  arrays : List String := []
deriving Inhabited

/-- Expressions for texts: counts in braces stand for themselves, and a backslash works between
brackets too. -/
def dialect : Regex.Dialect :=
  { extended := true, strict := true, controls := true, escapesInside := true, counts := false
    references := false, words := false }

def flawText : Regex.Problem → String
  | .openBracket => "bad class -- [], [^] or ["
  | .badClass => "bad class -- [], [^] or ["
  | .malformed => "bad class -- [], [^] or ["
  | .openGroup => "missing ')'"
  | .nothingToRepeat => "missing operand"
  | p => p.text

end JobMatrix.Program.Awk
