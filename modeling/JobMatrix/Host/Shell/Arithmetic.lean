import JobMatrix.Dict
import JobMatrix.Number.Double
import JobMatrix.Host.Shell.Script

/-! Arithmetic in shell scripts: whole numbers of 64 bits, the usual operators, and assignments to
variables. -/

namespace JobMatrix.Shell.Arithmetic

structure State where
  rest : List Char
  vars : Env

abbrev Eval := StateT State (Except String)

def wrap (n : Int) : Int := Int.bmod n (2 ^ 64)

def truth (b : Bool) : Int := if b then 1 else 0

def isSpace (c : Char) : Bool := c == ' ' || c == '\t' || c == '\n'

def skipSpace : Eval Unit := modify fun s => { s with rest := s.rest.dropWhile isSpace }

def digitIn (base : Nat) (c : Char) : Option Nat :=
  let n := if c.isDigit then c.toNat - 48
    else if 'a' ≤ c && c ≤ 'f' then c.toNat - 87
    else if 'A' ≤ c && c ≤ 'F' then c.toNat - 55
    else 16
  if n < base then some n else none

def ofDigits (base : Nat) (s : List Char) : Option Nat :=
  if s.isEmpty then none
  else s.foldlM (fun n c => (digitIn base c).map fun d => base * n + d) 0

/-- The number that a constant spells: decimal, octal after a zero, hexadecimal after `0x`. -/
def constant? : List Char → Option Int
  | '0' :: 'x' :: rest => (ofDigits 16 rest).map Int.ofNat
  | '0' :: 'X' :: rest => (ofDigits 16 rest).map Int.ofNat
  | '0' :: rest => if rest.isEmpty then some 0 else (ofDigits 8 rest).map Int.ofNat
  | s => (ofDigits 10 s).map Int.ofNat

def valueOf (s : String) : Except String Int :=
  let cs := s.toList.dropWhile isSpace
  let (sign, body) := match cs with
    | '-' :: r => ((-1 : Int), r)
    | '+' :: r => (1, r)
    | r => (1, r)
  let bare := (body.reverse.dropWhile isSpace).reverse
  if cs.isEmpty then .ok 0
  else match constant? bare with
    | some n => .ok (wrap (sign * n))
    | none => .error ("Illegal number: " ++ s)

def failure {α : Type} (reason : String) : Eval α := throw ("!" ++ reason)

/-- Binary operators by precedence, the strongest first; longer ones before their beginnings. -/
def levels : List (List String) :=
  [["*", "/", "%"], ["+", "-"], ["<<", ">>"], ["<=", ">=", "<", ">"], ["==", "!="], ["&"], ["^"],
   ["|"], ["&&"], ["||"]]

def operate (op : String) (a b : Int) : Eval Int :=
  match op with
  | "*" => return wrap (a * b)
  | "/" => if b == 0 then failure "division by zero" else return wrap (Int.tdiv a b)
  | "%" => if b == 0 then failure "division by zero" else return Int.tmod a b
  | "+" => return wrap (a + b)
  | "-" => return wrap (a - b)
  | "<<" => return wrap (a * 2 ^ (b.toNat % 64))
  | ">>" => return Int.fdiv a (2 ^ (b.toNat % 64))
  | "<=" => return truth (a ≤ b)
  | ">=" => return truth (a ≥ b)
  | "<" => return truth (a < b)
  | ">" => return truth (a > b)
  | "==" => return truth (a == b)
  | "!=" => return truth (a != b)
  | "&" => return wrap (bits (· &&& ·) a b)
  | "^" => return wrap (bits (· ^^^ ·) a b)
  | "|" => return wrap (bits (· ||| ·) a b)
  | "&&" => return truth (a != 0 && b != 0)
  | _ => return truth (a != 0 || b != 0)
where
  bits (f : Nat → Nat → Nat) (a b : Int) : Int :=
    f (Int.emod a (2 ^ 64)).toNat (Int.emod b (2 ^ 64)).toNat

def operator? (level : List String) (rest : List Char) : Option String :=
  level.find? fun op =>
    op.toList.isPrefixOf rest &&
      (let after := rest.drop op.length
       match op, after.head? with
       | "&", some '&' => false
       | "|", some '|' => false
       | "<", some '<' => false
       | ">", some '>' => false
       | o, some '=' => o == "<=" || o == ">=" || o == "==" || o == "!=" || o == "&&" || o == "||"
       | _, _ => true)

def assignOperators : List String := ["<<=", ">>=", "*=", "/=", "%=", "+=", "-=", "&=", "^=", "|="]

def assign? (rest : List Char) : Option String :=
  match rest with
  | '=' :: '=' :: _ => none
  | '=' :: _ => some "="
  | _ => assignOperators.find? fun op => op.toList.isPrefixOf rest

mutual

/-- An expression; where `live` is false it is read only. -/
def expression (live : Bool) : Nat → Eval Int
  | 0 => failure "expecting primary"
  | fuel + 1 => do
    skipSpace
    let before ← get
    let name := before.rest.takeWhile isNameChar
    let named := name.head?.elim false isNameStart
    let after := (before.rest.drop name.length).dropWhile isSpace
    match if named then assign? after else none with
    | some op =>
      set { before with rest := after.drop op.length }
      let right ← expression live fuel
      let key := String.ofList name
      let value ← if op == "=" || !live then pure right
        else do
          let old ← match valueOf ((Dict.get? (← get).vars key).getD "") with
            | .ok n => pure n
            | .error e => throw e
          operate (String.ofList (op.toList.dropLast)) old right
      if live then modify fun s => { s with vars := Dict.put s.vars key (toString value) }
      return value
    | none => ternary live fuel

def ternary (live : Bool) : Nat → Eval Int
  | 0 => failure "expecting primary"
  | fuel + 1 => do
    let test ← binary live levels.length fuel
    skipSpace
    match (← get).rest with
    | '?' :: rest =>
      modify fun s => { s with rest }
      let yes ← expression (live && test != 0) fuel
      skipSpace
      match (← get).rest with
      | ':' :: rest =>
        modify fun s => { s with rest }
        let no ← ternary (live && test == 0) fuel
        return if test != 0 then yes else no
      | _ => failure "expecting ':'"
    | _ => return test

/-- Operations of the strongest `level` levels. -/
def binary (live : Bool) (level : Nat) : Nat → Eval Int
  | 0 => failure "expecting primary"
  | fuel + 1 => do
    match level with
    | 0 => unary live fuel
    | l + 1 =>
      let first ← binary live l fuel
      binaryRest live l first fuel

def binaryRest (live : Bool) (level : Nat) (left : Int) : Nat → Eval Int
  | 0 => failure "expecting primary"
  | fuel + 1 => do
    skipSpace
    match operator? (levels[level]?.getD []) (← get).rest with
    | none => return left
    | some op =>
      modify fun s => { s with rest := s.rest.drop op.length }
      let live' := live && !(op == "&&" && left == 0) && !(op == "||" && left != 0)
      let right ← binary live' level fuel
      let value ← if live' then operate op left right
        else pure (truth (op == "||" && left != 0))
      binaryRest live level value fuel

def unary (live : Bool) : Nat → Eval Int
  | 0 => failure "expecting primary"
  | fuel + 1 => do
    skipSpace
    match (← get).rest with
    | '-' :: rest => modify fun s => { s with rest }; return wrap (-(← unary live fuel))
    | '+' :: rest => modify fun s => { s with rest }; unary live fuel
    | '!' :: rest => modify fun s => { s with rest }; return truth ((← unary live fuel) == 0)
    | '~' :: rest => modify fun s => { s with rest }; return wrap (-(← unary live fuel) - 1)
    | '(' :: rest =>
      modify fun s => { s with rest }
      let n ← expression live fuel
      skipSpace
      match (← get).rest with
      | ')' :: rest => modify fun s => { s with rest }; return n
      | _ => failure "expecting ')'"
    | c :: _ =>
      let s ← get
      let word := s.rest.takeWhile isNameChar
      set { s with rest := s.rest.drop word.length }
      if c.isDigit then
        match constant? word with
        | some n => return wrap n
        | none => failure "expecting EOF"
      else if isNameStart c then
        match valueOf ((Dict.get? s.vars (String.ofList word)).getD "") with
        | .ok n => return n
        | .error e => if live then throw e else return 0
      else failure "expecting primary"
    | [] => failure "expecting primary"

end

def evaluate (vars : Env) (text : String) : Except String (Int × Env) :=
  let cs := text.toList
  let run : Eval Int := do
    skipSpace
    if (← get).rest.isEmpty then return 0
    let n ← expression true (30 * cs.length + 60)
    skipSpace
    if (← get).rest.isEmpty then return n else failure "expecting EOF"
  match run.run { rest := cs, vars } with
  | .ok (n, s) => .ok (n, s.vars)
  | .error e =>
    match e.toList with
    | '!' :: reason =>
      .error ("arithmetic expression: " ++ String.ofList reason ++ ": \"" ++ text ++ "\"")
    | _ => .error e

end JobMatrix.Shell.Arithmetic
