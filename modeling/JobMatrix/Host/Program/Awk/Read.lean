import JobMatrix.Host.Program.Awk.Token

/-! Programs from their tokens. What is wrong with a statement is noted, and reading goes on after it;
a program with flaws does not run. -/

namespace JobMatrix.Program.Awk

inductive Kind where
  | variable
  | array
deriving DecidableEq, Repr

structure Cursor where
  rest : List Lexeme
  /-- The uses of variables. -/
  kinds : List (String × Kind) := []
  loops : Nat := 0
  /-- Whether there is a record where the next statement runs. -/
  hasRecord : Bool := true
  flaws : List Flaw := []
deriving Inhabited

abbrev Reader := ExceptT Flaw (StateM Cursor)

namespace Reader

def lexeme : Reader Lexeme := do
  return ((← get).rest.head?).getD { token := .finish, line := 1, parens := 0 }

def peek : Reader Token := do return (← lexeme).token

def advance : Reader Unit := modify fun s => { s with rest := s.rest.drop 1 }

def blame {α : Type} (c : Cause) : Reader α := do throw { line := (← lexeme).line, cause := c }

def wrong {α : Type} : Reader α := do
  let l ← lexeme
  match l.token with
  | .flawed c => blame c
  | .finish => blame (.missing '\x7d' "end of file")
  | t => if 0 < l.parens then blame (.missing ')' t.shown) else blame (.near t.shown)

def isMark (s : String) : Reader Bool := do return (← peek) == .mark s

def isWord (s : String) : Reader Bool := do return (← peek) == .word s

def took (s : String) : Reader Bool := do
  if ← isMark s then
    advance
    return true
  return false

def need (s : String) : Reader Unit := do if !(← took s) then wrong

def skipLines : Reader Unit := do if (← peek) == .newline then advance

def use (n : String) (k : Kind) : Reader Unit := do
  match (← get).kinds.lookup n with
  | some k' =>
    if k != k' then blame (match k with | .array => .notArray n | .variable => .notVariable n)
  | none => modify fun s => { s with kinds := (n, k) :: s.kinds }

end Reader

open Reader

def arrayName : Reader String := do
  match ← peek with
  | .name n =>
    advance
    use n .array
    return n
  | _ => wrong

def patternOf (source : String) : Reader Expr := do
  match Regex.read dialect source.toList with
  | .ok (r, _) => return .pattern { source, regex := r }
  | .error p => blame (.flaw source p)

def understood (e : Expr) : Reader Expr := do
  match e with
  | .text s => patternOf s
  | e => return e

def assignment? (t : Token) : Option (Option Arithmetic) :=
  match t with
  | .mark "=" => some none
  | .mark "+=" => some (some .add)
  | .mark "-=" => some (some .sub)
  | .mark "*=" => some (some .mul)
  | .mark "/=" => some (some .div)
  | .mark "%=" => some (some .rem)
  | .mark "^=" => some (some .pow)
  | _ => none

/-- The comparison that a mark stands for; a mark that sends output to a file is none. -/
def relation? (printing : Bool) (t : Token) : Option Relation :=
  match t with
  | .mark "<" => some .lt
  | .mark "<=" => some .le
  | .mark "==" => some .eq
  | .mark "!=" => some .ne
  | .mark ">=" => some .ge
  | .mark ">" => if printing then none else some .gt
  | _ => none

def startsOperand (t : Token) : Bool :=
  match t with
  | .number _ _ => true
  | .text _ => true
  | .pattern _ => true
  | .name _ => true
  | .builtin _ => true
  | .mark s => ["$", "!", "(", "++", "--"].contains s
  | _ => false

def placed (e : Expr) : Reader Expr := do
  match e with
  | .name n => use n .variable
  | _ => pure ()
  return e

def valued (e : Expr) : Reader Expr := placed e

mutual

def expr (printing : Bool) : Nat → Reader Expr
  | 0 => wrong
  | fuel + 1 => do
    let c ← disjunction printing fuel
    if ← took "?" then
      let a ← expr printing fuel
      need ":"
      let b ← expr printing fuel
      return .choose (← valued c) (← valued a) (← valued b)
    else return c

def value (printing : Bool) : Nat → Reader Expr
  | 0 => wrong
  | fuel + 1 => do valued (← expr printing fuel)

def disjunction (printing : Bool) : Nat → Reader Expr
  | 0 => wrong
  | fuel + 1 => do
    let a ← conjunction printing fuel
    moreOr printing fuel a

def moreOr (printing : Bool) : Nat → Expr → Reader Expr
  | 0, _ => wrong
  | fuel + 1, a => do
    if ← took "||" then
      let b ← conjunction printing fuel
      moreOr printing fuel (.or (← valued a) (← valued b))
    else return a

def conjunction (printing : Bool) : Nat → Reader Expr
  | 0 => wrong
  | fuel + 1 => do
    let a ← membership printing fuel
    moreAnd printing fuel a

def moreAnd (printing : Bool) : Nat → Expr → Reader Expr
  | 0, _ => wrong
  | fuel + 1, a => do
    if ← took "&&" then
      let b ← membership printing fuel
      moreAnd printing fuel (.and (← valued a) (← valued b))
    else return a

def membership (printing : Bool) : Nat → Reader Expr
  | 0 => wrong
  | fuel + 1 => do
    let a ← fitting printing fuel
    moreIn fuel a

def moreIn : Nat → Expr → Reader Expr
  | 0, _ => wrong
  | fuel + 1, a => do
    if ← isWord "in" then
      advance
      let n ← arrayName
      moreIn fuel (.member [← valued a] n)
    else return a

def fitting (printing : Bool) : Nat → Reader Expr
  | 0 => wrong
  | fuel + 1 => do
    let a ← comparison printing fuel
    moreFits printing fuel a

def moreFits (printing : Bool) : Nat → Expr → Reader Expr
  | 0, _ => wrong
  | fuel + 1, a => do
    let t ← peek
    if t == .mark "~" || t == .mark "!~" then
      advance
      let b ← comparison printing fuel
      let b ← understood (← valued b)
      moreFits printing fuel (.fits (t == .mark "!~") (← valued a) b)
    else return a

def comparison (printing : Bool) : Nat → Reader Expr
  | 0 => wrong
  | fuel + 1 => do
    let a ← joined printing fuel
    moreRelations printing fuel a

def moreRelations (printing : Bool) : Nat → Expr → Reader Expr
  | 0, _ => wrong
  | fuel + 1, a => do
    match relation? printing (← peek) with
    | some op =>
      advance
      let b ← joined printing fuel
      moreRelations printing fuel (.relation op (← valued a) (← valued b))
    | none => return a

def joined (printing : Bool) : Nat → Reader Expr
  | 0 => wrong
  | fuel + 1 => do
    let a ← sum fuel
    match assignment? (← peek) with
    | some op =>
      if a.isPlace then
        advance
        let target ← placed a
        let v ← value printing fuel
        return .assign op target v
      else wrong
    | none => moreJoined fuel a

def moreJoined : Nat → Expr → Reader Expr
  | 0, _ => wrong
  | fuel + 1, a => do
    if startsOperand (← peek) then
      let b ← sum fuel
      moreJoined fuel (.concat (← valued a) (← valued b))
    else return a

def sum : Nat → Reader Expr
  | 0 => wrong
  | fuel + 1 => do
    let a ← product fuel
    moreSums fuel a

def moreSums : Nat → Expr → Reader Expr
  | 0, _ => wrong
  | fuel + 1, a => do
    if ← took "+" then
      let b ← product fuel
      moreSums fuel (.arithmetic .add (← valued a) (← valued b))
    else if ← took "-" then
      let b ← product fuel
      moreSums fuel (.arithmetic .sub (← valued a) (← valued b))
    else return a

def product : Nat → Reader Expr
  | 0 => wrong
  | fuel + 1 => do
    let a ← signedOperand fuel
    moreProducts fuel a

def moreProducts : Nat → Expr → Reader Expr
  | 0, _ => wrong
  | fuel + 1, a => do
    let op ← if ← took "*" then pure (some Arithmetic.mul)
      else if ← took "/" then pure (some .div)
      else if ← took "%" then pure (some .rem)
      else pure none
    match op with
    | some op =>
      let b ← signedOperand fuel
      moreProducts fuel (.arithmetic op (← valued a) (← valued b))
    | none => return a

def signedOperand : Nat → Reader Expr
  | 0 => wrong
  | fuel + 1 => do
    if ← took "!" then return .not (← valued (← signedOperand fuel))
    else if ← took "-" then return .negate (← valued (← signedOperand fuel))
    else if ← took "+" then return .plus (← valued (← signedOperand fuel))
    else power fuel

def power : Nat → Reader Expr
  | 0 => wrong
  | fuel + 1 => do
    let a ← stepped fuel
    if ← took "^" then
      let b ← exponent fuel
      return .arithmetic .pow (← valued a) (← valued b)
    else return a

def exponent : Nat → Reader Expr
  | 0 => wrong
  | fuel + 1 => do
    if ← took "-" then return .negate (← valued (← exponent fuel))
    else if ← took "+" then return .plus (← valued (← exponent fuel))
    else if ← took "!" then return .not (← valued (← exponent fuel))
    else power fuel

def stepped : Nat → Reader Expr
  | 0 => wrong
  | fuel + 1 => do
    let a ← operand fuel
    if a.isPlace then
      if ← took "++" then return .step true false (← placed a)
      else if ← took "--" then return .step false false (← placed a)
      else return a
    else return a

def list (printing : Bool) : Nat → Reader (List Expr)
  | 0 => wrong
  | fuel + 1 => do
    let a ← expr printing fuel
    if ← took "," then return a :: (← list printing fuel) else return [a]

def arguments : Nat → Reader (List Expr)
  | 0 => wrong
  | fuel + 1 => do
    if ← took ")" then return []
    let args ← list false fuel
    need ")"
    return args

def operand : Nat → Reader Expr
  | 0 => wrong
  | fuel + 1 => do
    match ← peek with
    | .number x _ =>
      advance
      return .number x
    | .text s =>
      advance
      return .text s
    | .pattern s =>
      let e ← patternOf s
      advance
      return e
    | .name n =>
      advance
      if ← took "[" then
        use n .array
        let index ← list false fuel
        let index ← index.mapM valued
        need "]"
        return .item n index
      else return .name n
    | .builtin b =>
      advance
      if b == .length && !(← isMark "(") then return .builtin b []
      need "("
      let args ← arguments fuel
      if !b.takes args.length then blame (.wrongArguments b.name)
      match b, args with
      | .split, [a, .name n] =>
        use n .array
        return .builtin b [← valued a, .name n]
      | .split, [a, .name n, c] =>
        use n .array
        return .builtin b [← valued a, .name n, ← valued c]
      | .split, _ => wrong
      | .length, _ => return .builtin b args
      | .find, [a, r] => return .builtin b [← valued a, ← understood (← valued r)]
      | .sub, r :: more => return .builtin b ((← understood (← valued r)) :: (← more.mapM valued))
      | .gsub, r :: more => return .builtin b ((← understood (← valued r)) :: (← more.mapM valued))
      | _, _ => return .builtin b (← args.mapM valued)
    | .mark "$" =>
      advance
      if ← took "-" then return .field (.negate (← valued (← operand fuel)))
      else return .field (← valued (← operand fuel))
    | .mark "++" =>
      advance
      let a ← operand fuel
      if a.isPlace then return .step true true (← placed a) else wrong
    | .mark "--" =>
      advance
      let a ← operand fuel
      if a.isPlace then return .step false true (← placed a) else wrong
    | .mark "!" =>
      advance
      return .not (← valued (← operand fuel))
    | .mark "(" =>
      advance
      let items ← list false fuel
      need ")"
      match items with
      | [e] => return .group (← valued e)
      | es =>
        if ← isWord "in" then
          advance
          let n ← arrayName
          return .member (← es.mapM valued) n
        else wrong
    | _ => wrong

end

def holdsAll (lexemes : List Lexeme) : Bool :=
  match lexemes with
  | first :: rest =>
    match rest.dropWhile fun l => !(l.token == .mark ")" && l.parens + 1 == first.parens) with
    | _ :: after :: _ =>
      match after.token with
      | .newline => true
      | .finish => true
      | .mark s => [";", "\x7d", ">", ">>"].contains s
      | _ => false
    | _ => true
  | [] => false

def finish : Reader Unit := do
  match ← peek with
  | .newline => advance
  | .mark ";" => advance
  | .mark "\x7d" => return
  | _ => wrong

def printed (fuel : Nat) : Reader (List Expr × Option (Bool × Expr)) := do
  let args ← match ← peek with
    | .newline => pure []
    | .finish => pure []
    | .mark "(" =>
      if holdsAll (← get).rest then do
        advance
        let args ← arguments fuel
        args.mapM valued
      else do (← list true fuel).mapM valued
    | .mark s =>
      if [";", "\x7d", ">", ">>"].contains s then pure []
      else do (← list true fuel).mapM valued
    | _ => do (← list true fuel).mapM valued
  let target ← if ← took ">" then do pure (some (false, ← value false fuel))
    else if ← took ">>" then do pure (some (true, ← value false fuel))
    else pure none
  return (args, target)

def note (f : Flaw) : Reader Unit := modify fun s => { s with flaws := f :: s.flaws }

def recover (f : Flaw) : Nat → Reader Statement
  | 0 => return .block []
  | fuel + 1 => do
    if f.cause.isFinal then throw f
    note f
    match f.cause with
    | .extra _ => advance
    | _ => pure ()
    skip fuel
where
  skip : Nat → Reader Statement
    | 0 => return .block []
    | fuel + 1 => do
      match ← peek with
      | .newline => do
        advance
        return .block []
      | .mark ";" => do
        advance
        return .block []
      | .mark "\x7d" => return .block []
      | .finish => throw { line := (← lexeme).line, cause := .missing '\x7d' "end of file" }
      | .flawed c => do
        let f : Flaw := { line := (← lexeme).line, cause := c }
        if c.isFinal then throw f
        note f
        advance
        skip fuel
      | _ => do
        advance
        skip fuel

def inLoop {α : Type} (x : Reader α) : Reader α := do
  modify fun s => { s with loops := s.loops + 1 }
  let a ← x
  modify fun s => { s with loops := s.loops - 1 }
  return a

def plain (w : String) (s : Statement) (loops : Bool) : Reader Statement := do
  if loops && (← get).loops == 0 then blame (.outsideLoop w)
  advance
  finish
  return s

mutual

def statement : Nat → Reader Statement
  | 0 => wrong
  | fuel + 1 => do
    match ← peek with
    | .mark "\x7b" =>
      advance
      let body ← block fuel
      return .block body
    | .mark ";" =>
      advance
      return .block []
    | .newline =>
      advance
      return .block []
    | .word "if" =>
      advance
      need "("
      let c ← value false fuel
      need ")"
      skipLines
      let yes ← statement fuel
      skipLines
      if ← isWord "else" then
        advance
        let no ← statement fuel
        return .branch c yes (some no)
      else return .branch c yes none
    | .word "while" =>
      advance
      need "("
      let c ← value false fuel
      need ")"
      skipLines
      let body ← inLoop (statement fuel)
      return .loop c body
    | .word "do" =>
      advance
      let body ← inLoop (statement fuel)
      skipLines
      if !(← isWord "while") then wrong
      advance
      need "("
      let c ← value false fuel
      need ")"
      finish
      return .loopAfter body c
    | .word "for" =>
      advance
      need "("
      counted fuel
    | .word "break" => plain "break" .stop true
    | .word "continue" => plain "continue" .again true
    | .word "next" =>
      if (← get).hasRecord then plain "next" .next false else blame (.misplaced "next")
    | .word "nextfile" =>
      if (← get).hasRecord then plain "nextfile" .nextFile false else blame (.misplaced "nextfile")
    | .word "exit" =>
      advance
      let code ← optional fuel
      finish
      return .exit code
    | .word "delete" =>
      advance
      let n ← arrayName
      if ← took "[" then
        let index ← (← list false fuel).mapM valued
        need "]"
        finish
        return .delete n (some index)
      else
        finish
        return .delete n none
    | .word "print" =>
      advance
      let (args, target) ← printed fuel
      finish
      return .print args target
    | .word "printf" =>
      advance
      let (args, target) ← printed fuel
      if args.isEmpty then blame (.noArguments "printf")
      finish
      return .printf args target
    | _ =>
      let e ← value false fuel
      finish
      return .eval e

def optional : Nat → Reader (Option Expr)
  | 0 => wrong
  | fuel + 1 => do
    match ← peek with
    | .newline => return none
    | .mark ";" => return none
    | .mark "\x7d" => return none
    | _ => return some (← value false fuel)

/-- What follows the parenthesis of `for`. -/
def counted : Nat → Reader Statement
  | 0 => wrong
  | fuel + 1 => do
    let ahead : List Token := ((← get).rest.take 4).map (·.token)
    match ahead with
    | [.name k, .word "in", .name a, .mark ")"] =>
      modify fun s => { s with rest := s.rest.drop 4 }
      use k .variable
      use a .array
      skipLines
      let body ← inLoop (statement fuel)
      return .forKeys k a body
    | _ =>
      let first ← if ← isMark ";" then pure none else do pure (some (← value false fuel))
      need ";"
      let c ← if ← isMark ";" then pure none else do pure (some (← value false fuel))
      need ";"
      let next ← if ← isMark ")" then pure none else do pure (some (← value false fuel))
      need ")"
      skipLines
      let body ← inLoop (statement fuel)
      return .count first c next body

def block : Nat → Reader (List Statement)
  | 0 => wrong
  | fuel + 1 => do
    match ← peek with
    | .mark "\x7d" =>
      advance
      return []
    | .finish => wrong
    | _ =>
      let s ← tryCatch (statement fuel) fun f => recover f fuel
      let rest ← block fuel
      return s :: rest

end

def action (fuel : Nat) (hasRecord : Bool) : Reader Statement := do
  need "\x7b"
  modify fun s => { s with hasRecord }
  let body ← block fuel
  return .block body

def part (fuel : Nat) (script : Script) : Reader Script := do
  let add (r : Rule) : Script := { script with rules := r :: script.rules }
  let after : Reader Unit := do
    let _ ← took ";"
    skipLines
  match ← peek with
  | .word "BEGIN" =>
    advance
    let a ← action fuel false
    after
    return add { trigger := .start, action := some a }
  | .word "END" =>
    advance
    let a ← action fuel false
    after
    return add { trigger := .finish, action := some a }
  | .mark "\x7b" =>
    let a ← action fuel true
    after
    return add { trigger := .always, action := some a }
  | _ =>
    let first ← value false fuel
    let trigger ← if ← took "," then do pure (Trigger.range first (← value false fuel))
      else pure (Trigger.when first)
    match ← peek with
    | .mark "\x7b" =>
      let a ← action fuel true
      after
      return add { trigger, action := some a }
    | .newline =>
      advance
      return add { trigger, action := none }
    | .mark ";" =>
      advance
      return add { trigger, action := none }
    | _ => wrong

def parts : Nat → Script → Reader Script
  | 0, script => return script
  | fuel + 1, script => do
    if (← peek) == .finish then
      return { script with rules := script.rules.reverse }
    match ← peek with
    | .flawed c =>
      let f : Flaw := { line := (← lexeme).line, cause := c }
      if c.isFinal then throw f
      note f
      advance
      parts fuel script
    | _ =>
      let script ← part (20 * (← get).rest.length + 200) script
      parts fuel script

def read (text : List Char) : Except (List Flaw) Script :=
  let lexemes := tokensOf text
  let (result, c) := (parts (lexemes.length + 1) {}).run.run { rest := lexemes }
  match result with
  | .error f => .error (f :: c.flaws).reverse
  | .ok script =>
    if !c.flaws.isEmpty then .error c.flaws.reverse
    else
      let arrays := c.kinds.filterMap fun (n, k) => if k == .array then some n else none
      .ok { script with arrays }

end JobMatrix.Program.Awk
