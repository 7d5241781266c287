import JobMatrix.FileTree
import JobMatrix.Number.Read

/-! Conditions on texts, numbers and files. -/

namespace JobMatrix.Shell.Condition

open JobMatrix.Path (Place)

inductive Problem where
  | illegalNumber (s : String)
  | argumentExpected (op : String)
  | unexpectedOperator (w : String)
  | closingExpected
  | tooDeep
deriving DecidableEq, Repr

namespace Problem

def text : Problem → String
  | illegalNumber s => "Illegal number: " ++ s
  | argumentExpected op => op ++ ": argument expected"
  | unexpectedOperator w => w ++ ": unexpected operator"
  | closingExpected => "closing paren expected"
  | tooDeep => "too deep"

/-- How the program that tests conditions speaks of a problem with `count` words. -/
def formalText (count : Nat) : Problem → String
  | illegalNumber s => "invalid integer '" ++ s ++ "'"
  | argumentExpected op => "missing argument after '" ++ op ++ "'"
  | unexpectedOperator w =>
    if count == 2 then "'" ++ w ++ "': unary operator expected"
    else if count == 3 then "'" ++ w ++ "': binary operator expected"
    else "extra argument '" ++ w ++ "'"
  | closingExpected => "')' expected"
  | tooDeep => "too deep"

end Problem

structure Surroundings where
  tree : FileTree
  cwd : Place

def unaryNames : List String :=
  ["-r", "-w", "-x", "-e", "-f", "-d", "-c", "-b", "-p", "-u", "-g", "-k", "-s", "-t", "-z", "-n",
   "-h", "-O", "-G", "-L", "-S"]

def binaryNames : List String :=
  ["=", "!=", "<", ">", "-eq", "-ne", "-ge", "-gt", "-le", "-lt", "-nt", "-ot", "-ef"]

def numberOf (s : String) : Except Problem Int :=
  let trimmed := String.ofList (Text.strip s.toList)
  let (negative, digits) := Number.signed trimmed.toList
  if digits.isEmpty || !digits.all Char.isDigit then .error (.illegalNumber s)
  else
    let n : Int := Number.natOfDigits digits
    let n := if negative then -n else n
    if -(2 ^ 63) ≤ n && n < 2 ^ 63 then .ok n else .error (.illegalNumber s)

def lookup? (s : Surroundings) (path : String) (follows : Bool := true) : Option (Place × Entry) :=
  if path.isEmpty then none
  else match s.tree.lookup s.cwd (.ofText path) (follows || path.endsWith "/") with
    | .ok (place, e) => if path.endsWith "/" && !e.isDirectory then none else some (place, e)
    | .error _ => none

def unary (s : Surroundings) (op arg : String) : Except Problem Bool :=
  let holds (p : Entry → Bool) : Bool := (lookup? s arg).elim false fun e => p e.2
  let hasMode (bits : Nat) (e : Entry) : Bool := e.mode &&& bits != 0
  match op with
  | "-z" => .ok arg.isEmpty
  | "-n" => .ok !arg.isEmpty
  | "-e" => .ok (holds fun _ => true)
  | "-r" => .ok (holds fun _ => true)
  | "-w" => .ok (holds fun _ => true)
  | "-O" => .ok (holds fun _ => true)
  | "-G" => .ok (holds fun _ => true)
  | "-x" => .ok (holds Entry.isExecutable)
  | "-f" => .ok (holds Entry.isRegular)
  | "-d" => .ok (holds Entry.isDirectory)
  | "-c" => .ok (holds Entry.isDevice)
  | "-p" => .ok (holds fun e => match e.kind with | .channel => true | _ => false)
  | "-u" => .ok (holds (hasMode 0o4000))
  | "-g" => .ok (holds (hasMode 0o2000))
  | "-k" => .ok (holds (hasMode 0o1000))
  | "-h" => .ok ((lookup? s arg false).elim false fun e => e.2.isLink)
  | "-L" => .ok ((lookup? s arg false).elim false fun e => e.2.isLink)
  | "-s" => .ok (holds fun e => e.size != 0)
  | "-t" => (numberOf arg).map fun _ => false
  | _ => .ok false

def binary (s : Surroundings) (a op b : String) : Except Problem Bool :=
  let number (p : Int → Int → Bool) : Except Problem Bool := do
    let m ← numberOf a
    let n ← numberOf b
    return p m n
  let files (p : Place × Entry → Place × Entry → Bool) : Bool :=
    match lookup? s a, lookup? s b with
    | some x, some y => p x y
    | _, _ => false
  match op with
  | "=" => .ok (a == b)
  | "!=" => .ok (a != b)
  | "<" => .ok (a < b)
  | ">" => .ok (a > b)
  | "-eq" => number (· == ·)
  | "-ne" => number (· != ·)
  | "-ge" => number (· ≥ ·)
  | "-gt" => number (· > ·)
  | "-le" => number (· ≤ ·)
  | "-lt" => number (· < ·)
  | "-nt" => .ok (files fun x y => x.2.time > y.2.time)
  | "-ot" => .ok (files fun x y => x.2.time < y.2.time)
  | "-ef" => .ok (files fun x y => s.tree.isSame x.1 y.1)
  | _ => .ok false

/-- The words of a condition, the position of the present one, and the files. -/
structure State where
  words : List String
  position : Nat := 0

abbrev Eval := StateT State (Except Problem)

def wordAt (offset : Nat) : Eval (Option String) := do
  let s ← get
  return s.words[s.position + offset]?

def advance (n : Nat) : Eval Unit := modify fun s => { s with position := s.position + n }

/-- Whether a word at an offset acts as a unary operator: something follows that is no operator of a
comparison. -/
def actsUnary (offset : Nat) : Eval Bool := do
  match ← wordAt offset with
  | none => return false
  | some w =>
    if !unaryNames.contains w then return false
    match ← wordAt (offset + 1), ← wordAt (offset + 2) with
    | none, _ => return false
    | some _, none => return true
    | some next, some _ => return !binaryNames.contains next

mutual

def disjunction (s : Surroundings) : Nat → Eval Bool
  | 0 => throw .tooDeep
  | fuel + 1 => do
    let first ← conjunction s fuel
    if (← wordAt 1) == some "-o" then
      advance 2
      let rest ← disjunction s fuel
      return first || rest
    else return first

def conjunction (s : Surroundings) : Nat → Eval Bool
  | 0 => throw .tooDeep
  | fuel + 1 => do
    let first ← negation s fuel
    if (← wordAt 1) == some "-a" then
      advance 2
      let rest ← conjunction s fuel
      return first && rest
    else return first

def negation (s : Surroundings) : Nat → Eval Bool
  | 0 => throw .tooDeep
  | fuel + 1 => do
    if (← wordAt 0) == some "!" then
      match ← wordAt 1 with
      | none => return true
      | some _ =>
        advance 1
        return !(← negation s fuel)
    else primary s fuel

def primary (s : Surroundings) : Nat → Eval Bool
  | 0 => throw .tooDeep
  | fuel + 1 => do
    match ← wordAt 0 with
    | none => return false
    | some w =>
      if w == "(" && (← wordAt 1).isSome then
        advance 1
        if (← wordAt 0) == some ")" then return false
        let inner ← disjunction s fuel
        advance 1
        if (← wordAt 0) == some ")" then return inner else throw .closingExpected
      else if ← actsUnary 0 then
        advance 1
        match ← wordAt 0 with
        | none => throw (.argumentExpected w)
        | some arg => unary s w arg
      else
        match ← wordAt 1 with
        | some op =>
          if binaryNames.contains op && !(← actsUnary 1) then
            advance 2
            match ← wordAt 0 with
            | none => throw (.argumentExpected op)
            | some b => binary s w op b
          else return !w.isEmpty
        | none => return !w.isEmpty

end

def evaluate (s : Surroundings) (words : List String) : Except Problem Bool :=
  if words.isEmpty then .ok false
  else
    let run : Eval Bool := do
      let b ← disjunction s (8 * words.length + 16)
      match ← wordAt 0, ← wordAt 1 with
      | some w, some _ => throw (.unexpectedOperator w)
      | _, _ => return b
    match run.run { words } with
    | .ok (b, _) => .ok b
    | .error e => .error e

end JobMatrix.Shell.Condition
