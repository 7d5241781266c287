import JobMatrix.Host.Program.Options
import JobMatrix.Host.Regex.Read

/-! Expressions whose words are arguments: numbers, texts, comparisons and matches. -/

namespace JobMatrix.Program

namespace Expression

inductive Value where
  | number (n : Int)
  | text (s : String)
deriving Inhabited

namespace Value

def toText : Value → String
  | number n => toString n
  | text s => s

def number? : Value → Option Int
  | number n => some n
  | text s =>
    let (negative, ds) := match s.toList with
      | '-' :: ds => (true, ds)
      | ds => (false, ds)
    if ds.isEmpty || ds.any (fun c => !c.isDigit) then none
    else
      let n : Int := ds.foldl (fun n c => 10 * n + (c.toNat - 48)) 0
      some (if negative then -n else n)

def isNull : Value → Bool
  | number n => n == 0
  | text s => s.isEmpty || (text s).number? == some 0

end Value

inductive Problem where
  | missingAfter (word : String)
  | unexpected (word : String)
  | unexpectedClose
  | noCloseAfter (word : String)
  | noCloseBefore (word : String)
  | notInteger
  | zeroDivisor
  | pattern (p : Regex.Problem)

def Problem.text (mark : String → String) : Problem → String
  | missingAfter w => "syntax error: missing argument after " ++ mark w
  | unexpected w => "syntax error: unexpected argument " ++ mark w
  | unexpectedClose => "syntax error: unexpected ')'"
  | noCloseAfter w => "syntax error: expecting ')' after " ++ mark w
  | noCloseBefore w => "syntax error: expecting ')' instead of " ++ mark w
  | notInteger => "non-integer argument"
  | zeroDivisor => "division by zero"
  | pattern p => p.text

structure Cursor where
  last : String
  rest : List String

abbrev Reader := StateT Cursor (Except Problem)

def next? (words : List String) : Reader (Option String) := do
  let s ← get
  match s.rest with
  | w :: rest =>
    if words.contains w then
      set { s with last := w, rest }
      return some w
    else return none
  | [] => return none

def word : Reader String := do
  let s ← get
  match s.rest with
  | w :: rest =>
    set { s with last := w, rest }
    return w
  | [] => throw (.missingAfter s.last)

def chars (wide : Bool) (v : Value) : List Char := Octets.units wide (Octets.ofText v.toText)

def matched (wide : Bool) (text pattern : Value) : Except Problem Value := do
  let (r, groups, _) ← (Regex.read {} (chars wide pattern)).mapError .pattern
  let cs := chars wide text
  match r.at? { chars := cs.toArray } 0 with
  | none => return if groups == 0 then .number 0 else .text ""
  | some m =>
    if groups == 0 then return .number m.stop
    match m.groups.get? 1 with
    | some (i, j) => return .text (Octets.text (Octets.ofChars ((cs.take j).drop i)))
    | none => return .text ""

def part (wide : Bool) (text start length : Value) : Value :=
  match start.number?, length.number? with
  | some i, some n =>
    if i ≤ 0 || n ≤ 0 then .text ""
    else .text (Octets.text (Octets.ofChars (((chars wide text).drop (i.toNat - 1)).take n.toNat)))
  | _, _ => .text ""

def position (wide : Bool) (text set : Value) : Value :=
  let cs := chars wide text
  let wanted := chars wide set
  let i := cs.findIdx wanted.contains
  .number (if i < cs.length then (i + 1 : Nat) else 0)

def compared (op : String) (l r : Value) : Value :=
  let order := match l.number?, r.number? with
    | some a, some b => compare a b
    | _, _ => compare (Octets.ofText l.toText) (Octets.ofText r.toText)
  let holds : Bool := match op with
    | "<" => order == .lt
    | "<=" => order != .gt
    | ">" => order == .gt
    | ">=" => order != .lt
    | "!=" => order != .eq
    | _ => order == .eq
  .number (if holds then 1 else 0)

def calculated (op : String) (l r : Value) : Except Problem Value :=
  match l.number?, r.number? with
  | some a, some b =>
    match op with
    | "+" => .ok (.number (a + b))
    | "-" => .ok (.number (a - b))
    | "*" => .ok (.number (a * b))
    | _ =>
      if b == 0 then .error .zeroDivisor
      else .ok (.number (if op == "/" then a.tdiv b else a.tmod b))
  | _, _ => .error .notInteger

def levels : List (List String) :=
  [["|"], ["&"], ["<", "<=", "=", "==", "!=", ">=", ">"], ["+", "-"], ["*", "/", "%"], [":"]]

def combined (wide : Bool) (op : String) (l r : Value) : Except Problem Value :=
  match op with
  | "|" => .ok (if !l.isNull then l else if r.isNull then .number 0 else r)
  | "&" => .ok (if l.isNull || r.isNull then .number 0 else l)
  | ":" => matched wide l r
  | _ => if ["+", "-", "*", "/", "%"].contains op then calculated op l r else .ok (compared op l r)

def wantsRight (op : String) (l : Value) : Bool :=
  match op with
  | "|" => l.isNull
  | "&" => !l.isNull
  | _ => true

mutual

/-- A value under the operators of some levels; it is only worked out if it is `wanted`. -/
def binary (wide : Bool) : Nat → List (List String) → Bool → Reader Value
  | 0, _, _ => return .text ""
  | fuel + 1, [], wanted => primary wide fuel wanted
  | fuel + 1, ops :: tighter, wanted => do
    let l ← binary wide fuel tighter wanted
    chain wide fuel ops tighter wanted l

def chain (wide : Bool) : Nat → List String → List (List String) → Bool → Value → Reader Value
  | 0, _, _, _, l => return l
  | fuel + 1, ops, tighter, wanted, l => do
    match ← next? ops with
    | none => return l
    | some op =>
      let r ← binary wide fuel tighter (wanted && wantsRight op l)
      let l ← if wanted then liftM (combined wide op l r) else pure l
      chain wide fuel ops tighter wanted l

def primary (wide : Bool) : Nat → Bool → Reader Value
  | 0, _ => return .text ""
  | fuel + 1, wanted => do
    match ← word with
    | "+" => return .text (← word)
    | "length" =>
      let v ← primary wide fuel wanted
      return .number (chars wide v).length
    | "match" =>
      let l ← primary wide fuel wanted
      let r ← primary wide fuel wanted
      if wanted then liftM (matched wide l r) else return l
    | "index" =>
      let l ← primary wide fuel wanted
      let r ← primary wide fuel wanted
      return position wide l r
    | "substr" =>
      let l ← primary wide fuel wanted
      let i ← primary wide fuel wanted
      let n ← primary wide fuel wanted
      return part wide l i n
    | "(" =>
      let v ← binary wide fuel levels wanted
      match ← next? [")"] with
      | some _ => return v
      | none =>
        let s ← get
        match s.rest with
        | [] => throw (.noCloseAfter s.last)
        | w :: _ => throw (.noCloseBefore w)
    | ")" => throw .unexpectedClose
    | w => return .text w

end

def evaluate (wide : Bool) (words : List String) : Except Problem Value := do
  let (v, s) ← (binary wide (20 * (words.length + 1)) levels true).run { last := "expr", rest := words }
  match s.rest with
  | [] => return v
  | w :: _ => throw (.unexpected w)

end Expression

def expr (args : List String) : Work Nat := do
  let words := if args.head? == some "--" then args.drop 1 else args
  if words.isEmpty then return ← misuse "expr" "expr: missing operand" 2
  let wide := (← view).isUtf8
  match Expression.evaluate wide words with
  | .error e => refuse ("expr: " ++ e.text (Quoting.marked wide)) 2
  | .ok v =>
    sayLine v.toText
    return if v.isNull then 1 else 0

end JobMatrix.Program
