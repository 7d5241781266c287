import JobMatrix.Host.Program.Date
import JobMatrix.Host.Program.Mode

/-! Expressions that choose files and say what is done with them, and how they are read from words. -/

namespace JobMatrix.Program.Find

open JobMatrix.Path (Place)

inductive Sign where
  | exactly
  | more
  | less
deriving DecidableEq, Repr, Inhabited

def Sign.holds (s : Sign) (n bound : Nat) : Bool :=
  match s with
  | exactly => n == bound
  | more => bound < n
  | less => n < bound

inductive Permitted where
  | exactly
  | all
  | any
deriving DecidableEq, Repr, Inhabited

inductive Test where
  | name (pattern : String) (ignoresCase : Bool)
  | path (pattern : String) (ignoresCase : Bool)
  /-- The kind is one of some letters; of a link the other way than it is followed. -/
  | kind (letters : List Char) (otherWay : Bool)
  | size (sign : Sign) (count unit : Nat)
  | empty
  | mode (how : Permitted) (bits : Nat)
  | newer (time : Int)
  | executable
  | fixed (holds : Bool)
deriving Inhabited

/-- What is done with a file. -/
inductive Action where
  | print (ending : UInt8)
  | run (words : List String) (inDirectory : Bool)
  /-- Kept until there is enough for a command, which has a number of its own. -/
  | collect (id : Nat) (words : List String) (inDirectory : Bool)
  | delete
  | prune
  | quit
deriving Inhabited

inductive Expr where
  | test (t : Test)
  | act (a : Action)
  | not (e : Expr)
  | and (l r : Expr)
  | or (l r : Expr)
  /-- Both count, but only the second says what comes out. -/
  | sequence (l r : Expr)
deriving Inhabited

inductive Follows where
  | never
  | given
  | always
deriving DecidableEq, Repr, Inhabited

inductive Problem where
  | unknown (word : String)
  | missing (word : String)
  /-- A path among the expression; `after` is the part that it may belong to. -/
  | misplaced (word : String) (after : Option String)
  | notCount (option word : String)
  | noSize
  | sizeType (c : Char)
  | badSize (word : String)
  | unknownKind (option : String) (c : Char)
  | noKind (option : String)
  | lastKind (option : String)
  | joinedKinds (option : String)
  | noFile (path : String) (e : SystemError)
  | badMode (word : String)
  | braces (option : String)
  | nothing
  | operatorFirst (word : String)
  | expectedAfter (word : String)
  | expectedBetween (word : String)
  | emptyParentheses
  | noClose
  | openAtEnd (word : String)
  | tooManyClosed

def Problem.text (mark : String → String) : Problem → String
  | unknown w => "unknown predicate \x60" ++ w ++ "'"
  | missing w => "missing argument to \x60" ++ w ++ "'"
  | misplaced w after => "paths must precede expression: \x60" ++ w ++ "'" ++
      (match after with
        | some p => "\nfind: possible unquoted pattern after predicate \x60" ++ p ++ "'?"
        | none => "")
  | notCount o w => "Expected a positive decimal integer argument to " ++ o ++ ", but got " ++ mark w
  | noSize => "invalid null argument to -size"
  | sizeType c => "invalid -size type \x60" ++ String.singleton c ++ "'"
  | badSize w => "Invalid argument \x60" ++ w ++ "' to -size"
  | unknownKind o c => "Unknown argument to " ++ o ++ ": " ++ String.singleton c
  | noKind o => "Arguments to " ++ o ++ " should contain at least one letter"
  | lastKind o =>
    "Last file type in list argument to " ++ o ++ " is missing, i.e., list is ending on: ','"
  | joinedKinds o => "Must separate multiple arguments to " ++ o ++ " using: ','"
  | noFile path e => mark path ++ ": " ++ e.reason
  | badMode w => "invalid mode " ++ mark w
  | braces o => "Only one instance of \x7b\x7d is supported with " ++ o ++ " ... +"
  | nothing => "invalid expression"
  | operatorFirst w =>
    "invalid expression; you have used a binary operator '" ++ w ++ "' with nothing before it."
  | expectedAfter w => "expected an expression after '" ++ w ++ "'"
  | expectedBetween w => "expected an expression between '" ++ w ++ "' and ')'"
  | emptyParentheses => "invalid expression; empty parentheses are not allowed."
  | noClose =>
    "invalid expression; I was expecting to find a ')' somewhere but did not see one."
  | openAtEnd w => "invalid expression; expected to find a ')' but didn't see one. " ++
      "Perhaps you need an extra predicate after '" ++ w ++ "'"
  | tooManyClosed => "you have too many ')'"

inductive Token where
  | primary (name : String) (e : Expr)
  | not (name : String)
  | and (name : String) (implied : Bool)
  | or (name : String)
  | comma
  | opened
  /-- The end of parentheses, which may be there though nobody wrote them. -/
  | closed (implied : Bool)

namespace Token

def name : Token → String
  | primary n _ => n
  | not n => n
  | and n _ => n
  | or n => n
  | comma => ","
  | opened => "("
  | closed _ => ")"

def isEnd : Token → Bool
  | primary _ _ => true
  | closed _ => true
  | _ => false

def isStart : Token → Bool
  | primary _ _ => true
  | not _ => true
  | opened => true
  | _ => false

def strength : Token → Nat
  | comma => 2
  | or _ => 3
  | and _ _ => 4
  | _ => 0

def isOperator : Token → Bool
  | not _ => true
  | and _ implied => !implied
  | or _ => true
  | comma => true
  | _ => false

end Token

def joined : List Token → List Token
  | [] => []
  | [t] => [t]
  | t :: u :: rest =>
    if t.isEnd && u.isStart then t :: .and "-a" true :: joined (u :: rest)
    else t :: joined (u :: rest)

mutual

/-- An operand and the operators after it that bind more than some strength; `before` is what stands
before it. -/
def tree : Nat → Nat → Option Token → List Token → Except Problem (Expr × List Token)
  | 0, _, _, _ => .error .nothing
  | fuel + 1, strength, before, ts => do
    let (first, rest) ← operand fuel before ts
    operators fuel strength first rest

def operand : Nat → Option Token → List Token → Except Problem (Expr × List Token)
  | 0, _, _ => .error .nothing
  | _, _, [] => .error .nothing
  | fuel + 1, before, t :: rest =>
    match t with
    | .primary _ e => .ok (e, rest)
    | .not _ => do
      let (e, rest) ← tree fuel 5 (some t) rest
      return (.not e, rest)
    | .opened => do
      match rest with
      | [] => throw (.openAtEnd "(")
      | .closed false :: _ => throw .emptyParentheses
      | _ =>
        let (e, rest) ← tree fuel 0 (some t) rest
        match rest with
        | .closed _ :: rest => return (e, rest)
        | _ => throw .noClose
    | .closed implied =>
      match before with
      | some b =>
        if b.isOperator then
          .error (if implied then .expectedAfter b.name else .expectedBetween b.name)
        else .error .tooManyClosed
      | none => .error .tooManyClosed
    | t => .error (.operatorFirst t.name)

def operators : Nat → Nat → Expr → List Token → Except Problem (Expr × List Token)
  | 0, _, e, ts => .ok (e, ts)
  | _, _, e, [] => .ok (e, [])
  | fuel + 1, strength, l, t :: rest =>
    if t.strength ≤ strength then .ok (l, t :: rest)
    else do
      let (r, rest) ← tree fuel t.strength (some t) rest
      let e : Expr := match t with
        | .comma => .sequence l r
        | .or _ => .or l r
        | _ => .and l r
      operators fuel strength e rest

end

structure Plan where
  follows : Follows := .never
  depthFirst : Bool := false
  deepest : Option Nat := none
  least : Nat := 0
  commands : Nat := 0
  acts : Bool := false

structure Cursor where
  rest : List String
  plan : Plan := {}

abbrev Reader := StateT Cursor (Except Problem)

def argument (option : String) : Reader String := do
  let s ← get
  match s.rest with
  | w :: rest =>
    set { s with rest }
    return w
  | [] => throw (.missing option)

def signed? (w : String) : Option (Sign × List Char) :=
  match w.toList with
  | '+' :: cs => some (.more, cs)
  | '-' :: cs => some (.less, cs)
  | cs => some (.exactly, cs)

def depth (option : String) : Reader Nat := do
  let w ← argument option
  match plainNumber? w with
  | some n => return n
  | none => throw (.notCount option w)

def kinds (option : String) : List Char → Except Problem (List Char)
  | [] => .error (.noKind option)
  | c :: rest => do
    if !"bcdflpsD".toList.contains c then throw (.unknownKind option c)
    match rest with
    | [] => return [c]
    | [','] => throw (.lastKind option)
    | ',' :: rest => return c :: (← kinds option rest)
    | _ => throw (.joinedKinds option)

def size : Reader Expr := do
  let w ← argument "-size"
  match w.toList.getLast? with
  | none => throw .noSize
  | some c =>
    let unit? : Option Nat := match c with
      | 'b' => some 512
      | 'c' => some 1
      | 'w' => some 2
      | 'k' => some 1024
      | 'M' => some (1024 ^ 2)
      | 'G' => some (1024 ^ 3)
      | c => if c.isDigit then some 512 else none
    match unit? with
    | none => throw (.sizeType c)
    | some unit =>
      let digits := if c.isDigit then w.toList else w.toList.dropLast
      match signed? (String.ofList digits) with
      | none => throw (.badSize w)
      | some (sign, ds) =>
        match plainNumber? (String.ofList ds) with
        | some n => return .test (.size sign n unit)
        | none => throw (.badSize w)

def mode : Reader Expr := do
  let w ← argument "-perm"
  let (how, text) : Permitted × String := match w.toList with
    | '-' :: cs => (.all, String.ofList cs)
    | '/' :: cs => (.any, String.ofList cs)
    | _ => (.exactly, w)
  let isPlusNumber := match text.toList with
    | '+' :: c :: _ => c.isDigit
    | _ => false
  match if text.isEmpty || isPlusNumber then none else Mode.read? text with
  | some changes => return .test (.mode how (Mode.applyAll changes false 0 0))
  | none => throw (.badMode w)

def command (option : String) (taken : List String) : List String →
    Except Problem (List String × Bool × List String)
  | [] => .error (.missing option)
  | w :: rest =>
    if w == ";" then
      if taken.isEmpty then .error (.missing option) else .ok (taken.reverse, false, rest)
    else if w == "+" && taken.head? == some "\x7b\x7d" then
      .ok (taken.reverse, true, rest)
    else command option (w :: taken) rest

def acting (a : Action) : Reader Expr := do
  modify fun s => { s with plan := { s.plan with acts := true } }
  return .act a

def running (option : String) (inDirectory : Bool) : Reader Expr := do
  let s ← get
  let (words, many, rest) ← liftM (command option [] s.rest)
  set { s with rest }
  if many then
    if 1 < (words.filter (· == "\x7b\x7d")).length then throw (.braces option)
    let id := s.plan.commands
    modify fun s => { s with plan := { s.plan with commands := id + 1 } }
    acting (.collect id words.dropLast inDirectory)
  else acting (.run words inDirectory)

def timeOf (v : View) (path : String) : Reader Int := do
  match v.lookup path with
  | .ok (_, e) => return e.time
  | .error e => throw (.noFile path e)

def always : Expr := .test (.fixed true)

def pattern? (option : String) : Option (String → Test) :=
  match option with
  | "-name" => some (.name · false)
  | "-iname" => some (.name · true)
  | "-path" => some (.path · false)
  | "-wholename" => some (.path · false)
  | "-ipath" => some (.path · true)
  | "-iwholename" => some (.path · true)
  | _ => none

def plain? (option : String) : Option Test :=
  match option with
  | "-empty" => some .empty
  | "-executable" => some .executable
  | "-readable" => some (.fixed true)
  | "-writable" => some (.fixed true)
  | "-true" => some (.fixed true)
  | "-false" => some (.fixed false)
  | _ => none

def option? (option : String) : Reader (Option Plan) := do
  let plan := (← get).plan
  match option with
  | "-maxdepth" => return some { plan with deepest := some (← depth option) }
  | "-mindepth" => return some { plan with least := ← depth option }
  | "-depth" => return some { plan with depthFirst := true }
  | "-d" => return some { plan with depthFirst := true }
  | "-follow" => return some { plan with follows := .always }
  | _ => return none

def action? (option : String) : Reader (Option Expr) := do
  match option with
  | "-print" => return some (← acting (.print 10))
  | "-print0" => return some (← acting (.print 0))
  | "-exec" => return some (← running option false)
  | "-execdir" => return some (← running option true)
  | "-delete" =>
    modify fun s => { s with plan := { s.plan with depthFirst := true } }
    return some (← acting .delete)
  | "-prune" => return some (.act .prune)
  | "-quit" => return some (.act .quit)
  | _ => return none

def test (v : View) (option : String) : Reader Expr := do
  match option with
  | "-type" => return .test (.kind (← liftM (kinds option (← argument option).toList)) false)
  | "-xtype" => return .test (.kind (← liftM (kinds option (← argument option).toList)) true)
  | "-size" => size
  | "-perm" => mode
  | "-newer" => return .test (.newer (← timeOf v (← argument option)))
  | _ => throw (.unknown option)

def primary (v : View) (option : String) : Reader Expr := do
  match plain? option, pattern? option with
  | some t, _ => return .test t
  | none, some make => return .test (make (← argument option))
  | none, none =>
    match ← option? option with
    | some plan =>
      modify fun s => { s with plan }
      return always
    | none =>
      match ← action? option with
      | some e => return e
      | none => test v option

/-- Whether a word belongs to an expression; some do only after its start. -/
def isPart (leading : Bool) (w : String) : Bool :=
  match w.toList with
  | '-' :: _ :: _ => true
  | ['('] => true
  | ['!'] => true
  | [')'] => !leading
  | [','] => !leading
  | _ => false

/-- Reads all parts of an expression; `last` is the name of the part before. -/
def tokens (v : View) : Nat → Option String → Reader (List Token)
  | 0, _ => return []
  | fuel + 1, last => do
    let s ← get
    match s.rest with
    | [] => return []
    | w :: rest =>
      if !isPart false w then
        throw (.misplaced w (if (v.lookup w).toBool then last else none))
      set { s with rest }
      let t ← match w with
        | "(" => pure Token.opened
        | ")" => pure (Token.closed false)
        | "," => pure Token.comma
        | "!" => pure (Token.not w)
        | "-not" => pure (Token.not w)
        | "-a" => pure (Token.and w false)
        | "-and" => pure (Token.and w false)
        | "-o" => pure (Token.or w)
        | "-or" => pure (Token.or w)
        | _ => do pure (Token.primary w (← primary v w))
      return t :: (← tokens v fuel (some w))

def read (v : View) (follows : Follows) (words : List String) : Except Problem (Expr × Plan) := do
  let (ts, s) ← (tokens v (words.length + 1) none).run { rest := words, plan := { follows } }
  let print : Token := .primary "-print" (.act (.print 10))
  let all := if s.plan.acts then ts
    else if ts.isEmpty then [print]
    else .opened :: ts ++ [.closed true, print]
  let all := joined all
  let (e, rest) ← tree (4 * all.length + 4) 0 none all
  match rest with
  | [] => return (e, s.plan)
  | .closed _ :: _ => throw .tooManyClosed
  | _ => throw .nothing

end JobMatrix.Program.Find
