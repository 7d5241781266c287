import JobMatrix.Number.Leading
import JobMatrix.Host.Regex.Basic

/-! The spelling of regular expressions. In the basic one, groups, counts and alternatives are marked
by backslashes; in the extended one they are not. -/

namespace JobMatrix.Regex

inductive Problem where
  | malformed
  | openBracket
  | openGroup
  | closedGroup
  | openCount
  | badCount
  | badRange
  | badClass
  | badCollation
  | badReference
  | nothingToRepeat
  | trailingBackslash
  | tooBig
  /-- A class outside of brackets. -/
  | bareClass
deriving DecidableEq, Repr

def Problem.text : Problem → String
  | malformed => "Invalid regular expression"
  | openBracket => "Unmatched [, [^, [:, [., or [="
  | openGroup => "Unmatched ( or \\("
  | closedGroup => "Unmatched ) or \\)"
  | openCount => "Unmatched \\\x7b"
  | badCount => "Invalid content of \\\x7b\\\x7d"
  | badRange => "Invalid range end"
  | badClass => "Invalid character class name"
  | badCollation => "Invalid collation character"
  | badReference => "Invalid back reference"
  | nothingToRepeat => "Invalid preceding regular expression"
  | trailingBackslash => "Trailing backslash"
  | tooBig => "Regular expression too big"
  | bareClass => "character class syntax is [[:space:]], not [:space:]"

structure Dialect where
  extended : Bool := false
  /-- Whether an operator is wrong where there is nothing to repeat; otherwise it is skipped, or
  stands for itself in the basic spelling. -/
  strict : Bool := false
  /-- Whether letters after a backslash stand for control characters, between brackets too. -/
  controls : Bool := false
  /-- Whether a backslash between brackets makes the next character stand for itself. -/
  escapesInside : Bool := false
  counts : Bool := true
  references : Bool := true
  /-- Whether there are letters for words and their edges after a backslash. -/
  words : Bool := true
deriving Repr, Inhabited

/-- The characters that are left, the number of groups, those that are closed, and the operators that
were skipped. -/
structure Cursor where
  rest : List Char
  groups : Nat := 0
  closed : List Nat := []
  skipped : List String := []
deriving Inhabited

abbrev Reader := StateT Cursor (Except Problem)

namespace Reader

def rest : Reader (List Char) := do return (← get).rest

def setRest (cs : List Char) : Reader Unit := modify fun s => { s with rest := cs }

def drop (n : Nat) : Reader Unit := modify fun s => { s with rest := s.rest.drop n }

end Reader

open Reader (rest setRest drop)

def whole : Members := { negated := true, ranges := [] }

def classRanges? (name : String) : Option (List (Char × Char)) := do
  let isMember ← Text.charClass? name
  return (((List.range 128).map Char.ofNat).filter isMember).map fun c => (c, c)

def wordRanges : List (Char × Char) := [('a', 'z'), ('A', 'Z'), ('0', '9'), ('_', '_')]

def spaceRanges : List (Char × Char) := [(' ', ' '), ('\t', '\r')]

def control? (c : Char) : Option Char :=
  match c with
  | 'n' => some '\n'
  | 't' => some '\t'
  | 'r' => some '\r'
  | 'f' => some '\x0c'
  | 'v' => some '\x0b'
  | 'a' => some '\x07'
  | _ => none

def upToMark (mark : Char) : List Char → Option (List Char × List Char)
  | [] => none
  | c :: rest =>
    match rest with
    | ']' :: after =>
      if c == mark then some ([], after)
      else (upToMark mark rest).map fun r => (c :: r.1, r.2)
    | _ => (upToMark mark rest).map fun r => (c :: r.1, r.2)

inductive Member where
  | char (c : Char)
  | ranges (rs : List (Char × Char))

def member (d : Dialect) (cs : List Char) : Except Problem (Member × List Char) :=
  match cs with
  | [] => .error .openBracket
  | '[' :: ':' :: r =>
    match upToMark ':' r with
    | none => .error .openBracket
    | some (name, after) =>
      match classRanges? (String.ofList name) with
      | some rs => .ok (.ranges rs, after)
      | none => .error .badClass
  | '[' :: '.' :: r =>
    match upToMark '.' r with
    | some ([c], after) => .ok (.char c, after)
    | some _ => .error .badCollation
    | none => .error .openBracket
  | '[' :: '=' :: r =>
    match upToMark '=' r with
    | some ([c], after) => .ok (.ranges [(c, c)], after)
    | some _ => .error .badCollation
    | none => .error .openBracket
  | '\\' :: c :: r =>
    if d.escapesInside then .ok (.char ((control? c).getD c), r)
    else match if d.controls then control? c else none with
      | some k => .ok (.char k, r)
      | none => .ok (.char '\\', c :: r)
  | c :: r => .ok (.char c, r)

/-- Reads the members between brackets; one that closes them is a member at the very start. -/
def members (d : Dialect) : Nat → Bool → List Char →
    Except Problem (List (Char × Char) × List Char)
  | 0, _, _ => .error .openBracket
  | _, _, [] => .error .openBracket
  | fuel + 1, first, c :: r =>
    if c == ']' && !first then .ok ([], r)
    else do
      let (m, after) ← member d (c :: r)
      match m, after with
      | .ranges rs, '-' :: x :: tail =>
        if x == ']' then
          let (more, tail) ← members d fuel false ('-' :: x :: tail)
          return (rs ++ more, tail)
        else throw .badRange
      | .ranges rs, after =>
        let (more, tail) ← members d fuel false after
        return (rs ++ more, tail)
      | .char low, '-' :: x :: tail =>
        if x == ']' then
          let (more, tail) ← members d fuel false ('-' :: x :: tail)
          return ((low, low) :: more, tail)
        else
          let (high, tail) ← member d (x :: tail)
          match high with
          | .ranges _ => throw .badRange
          | .char high =>
            if high < low then throw .badRange
            match tail with
            | '-' :: y :: _ =>
              if y != ']' then throw .badRange
            | _ => pure ()
            let (more, tail) ← members d fuel false tail
            return ((low, high) :: more, tail)
      | .char c, after =>
        let (more, tail) ← members d fuel false after
        return ((c, c) :: more, tail)

def bracket (d : Dialect) : Reader Regex := do
  let cs ← rest
  let negated := cs.head? == some '^'
  let inside := if negated then cs.drop 1 else cs
  if inside.isEmpty then throw .malformed
  let (ranges, after) ← members d (inside.length + 1) true inside
  let body := inside.take (inside.length - after.length - 1)
  if !negated && 1 < body.length && body.head? == some ':' && body.getLast? == some ':' then
    throw .bareClass
  setRest after
  return .one { negated, ranges }

def countLimit : Nat := 32767

/-- What is read of a count: its bounds and what follows, nothing if it is none, or a mistake. -/
def count (d : Dialect) (cs : List Char) : Except Problem (Nat × Option Nat × List Char) :=
  let low := cs.takeWhile Char.isDigit
  let after := cs.drop low.length
  let (comma, after) := match after with
    | ',' :: r => (true, r)
    | r => (false, r)
  let high := if comma then after.takeWhile Char.isDigit else []
  let after := after.drop high.length
  let close? : Option (List Char) := match d.extended, after with
    | true, '\x7d' :: r => some r
    | false, '\\' :: '\x7d' :: r => some r
    | _, _ => none
  match close? with
  | none => if after.isEmpty then .error .openCount else .error .badCount
  | some r =>
    if low.isEmpty && !comma then .error .badCount
    else
      let least := Number.natOfDigits low
      let most : Option Nat := if !comma then some least
        else if high.isEmpty then none else some (Number.natOfDigits high)
      if most.elim false (· < least) then .error .badCount
      else if countLimit < least || most.elim false (countLimit < ·) then .error .tooBig
      else .ok (least, most, r)

/-- An operator that repeats what is before it, and what follows; none if there is none. -/
def operator? (d : Dialect) (cs : List Char) :
    Except Problem (Option (Nat × Option Nat × List Char × String)) :=
  let counted (r : List Char) : Except Problem (Option (Nat × Option Nat × List Char × String)) :=
    if !d.counts then .ok none
    else match count d r with
      | .ok (least, most, after) => .ok (some (least, most, after, "\x7b...\x7d"))
      | .error e => .error e
  match cs with
  | '*' :: r => .ok (some (0, none, r, "*"))
  | '+' :: r => .ok (if d.extended then some (1, none, r, "+") else none)
  | '?' :: r => .ok (if d.extended then some (0, some 1, r, "?") else none)
  | '\\' :: '+' :: r => .ok (if d.extended then none else some (1, none, r, "+"))
  | '\\' :: '?' :: r => .ok (if d.extended then none else some (0, some 1, r, "?"))
  | '\x7b' :: r =>
    if !d.extended then .ok none
    else match counted r with
      | .error .openCount => if d.strict then .error .openCount else .ok none
      | .error .badCount =>
        if d.strict || (r.takeWhile fun c => c.isDigit || c == ',').length + 1 ≤ r.length &&
            (r.dropWhile fun c => c.isDigit || c == ',').head? == some '\x7d' &&
            r.head? != some '\x7d' then .error .badCount
        else .ok none
      | x => x
  | '\\' :: '\x7b' :: r => if d.extended then .ok none else counted r
  | _ => .ok none

def repeated (d : Dialect) : Nat → Regex → Reader Regex
  | 0, r => return r
  | fuel + 1, r => do
    match ← operator? d (← rest) with
    | none => return r
    | some (least, most, after, _) =>
      setRest after
      if d.strict && !d.extended then
        match after with
        | '*' :: _ => throw .nothingToRepeat
        | '\\' :: '\x7b' :: _ => throw .nothingToRepeat
        | _ => pure ()
      repeated d fuel (.loop r least most)

def isAlternative (d : Dialect) : List Char → Bool
  | '|' :: _ => d.extended
  | '\\' :: '|' :: _ => !d.extended
  | '\n' :: _ => false
  | _ => false

def isClose (d : Dialect) : List Char → Bool
  | ')' :: _ => d.extended
  | '\\' :: ')' :: _ => !d.extended
  | _ => false

def word? (c : Char) : Option Regex :=
  match c with
  | 'w' => some (.one { ranges := wordRanges })
  | 'W' => some (.one { negated := true, ranges := wordRanges })
  | 's' => some (.one { ranges := spaceRanges })
  | 'S' => some (.one { negated := true, ranges := spaceRanges })
  | '<' => some (.edge .wordStart)
  | '>' => some (.edge .wordEnd)
  | 'b' => some (.edge .wordEdge)
  | 'B' => some (.edge .noWordEdge)
  | '\x60' => some (.edge .textStart)
  | '\'' => some (.edge .textEnd)
  | _ => none

def numbered? (cs : List Char) : Option (Char × Nat) :=
  let inBase (base most : Nat) (cs : List Char) : Option (Char × Nat) :=
    let ds := (cs.take most).takeWhile fun c => (Number.hexDigit? c).elim false (· < base)
    if ds.isEmpty then none
    else
      let n := ds.foldl (fun n c => base * n + (Number.hexDigit? c).getD 0) 0
      some (Char.ofNat (n % 256), ds.length + 1)
  match cs with
  | 'd' :: r => inBase 10 3 r
  | 'o' :: r => inBase 8 3 r
  | 'x' :: r => inBase 16 2 r
  | 'c' :: c :: _ => some (Char.ofNat (c.toUpper.toNat ^^^ 64), 2)
  | _ => none

def escaped (d : Dialect) : Reader Regex := do
  match ← rest with
  | [] => throw .trailingBackslash
  | c :: r =>
    if d.references && '1' ≤ c && c ≤ '9' then
      setRest r
      let n := c.toNat - 48
      if !(← get).closed.contains n then throw .badReference
      return .back n
    else
      let known := if d.words then word? c else none
      let control := if d.controls then control? c else none
      let number := if d.controls then numbered? (c :: r) else none
      match known, control, number with
      | some x, _, _ =>
        setRest r
        return x
      | _, some k, _ =>
        setRest r
        return char k
      | _, _, some (k, n) =>
        setRest ((c :: r).drop n)
        return char k
      | _, _, _ =>
        setRest r
        return char c

/-- What follows an operator at a place where there is nothing to repeat, if it is skipped. In the basic
spelling it stands for itself. -/
def skipped? (d : Dialect) (cs : List Char) : Reader (Option (List Char)) := do
  if !d.extended then
    match d.strict, cs with
    | true, '\\' :: '\x7b' :: _ => throw .nothingToRepeat
    | _, _ => return none
  else if d.strict && d.counts && cs.head? == some '\x7b' then throw .nothingToRepeat
  else
    match ← operator? d cs with
    | none => return none
    | some (_, _, after, name) =>
      if d.strict then throw .nothingToRepeat
      modify fun s => { s with skipped := s.skipped ++ [name] }
      return some after

/-- Expressions one after another; the last comes first. -/
def chain : List Regex → Regex
  | [] => .empty
  | r :: before => before.foldl (fun after r => .seq r after) r

mutual

def alternatives (d : Dialect) (depth : Nat) : Nat → Reader Regex
  | 0 => throw .tooBig
  | fuel + 1 => do
    let first ← branch d depth fuel true []
    let cs ← rest
    if isAlternative d cs then
      drop (if d.extended then 1 else 2)
      let others ← alternatives d depth fuel
      return .alt first others
    else return first
termination_by structural n => n

/-- Reads expressions one after another; `start` says whether nothing came before that could be
repeated, and the last of those before comes first. -/
def branch (d : Dialect) (depth : Nat) : Nat → Bool → List Regex → Reader Regex
  | 0, _, _ => throw .tooBig
  | fuel + 1, start, before => do
    let cs ← rest
    if cs.isEmpty || isAlternative d cs then return chain before
    else if isClose d cs && (0 < depth || d.strict || !d.extended) then
      if depth == 0 then throw .closedGroup
      return chain before
    else
      match cs with
      | '^' :: r =>
        if d.extended || start then
          setRest r
          branch d depth fuel true ((.edge .lineStart) :: before)
        else
          setRest r
          let x ← repeated d (r.length + 1) (char '^')
          branch d depth fuel false (x :: before)
      | '$' :: r =>
        if d.extended || r.isEmpty || isAlternative d r || isClose d r then
          setRest r
          let x ← if d.extended then repeated d (r.length + 1) (.edge .lineEnd)
            else pure (.edge .lineEnd)
          branch d depth fuel false (x :: before)
        else
          setRest r
          let x ← repeated d (r.length + 1) (char '$')
          branch d depth fuel false (x :: before)
      | _ =>
        match ← (if start then skipped? d cs else pure none) with
        | some after =>
          setRest after
          branch d depth fuel true before
        | none =>
          let x ← atom d depth fuel
          let x ← repeated d (cs.length + 1) x
          branch d depth fuel false (x :: before)
termination_by structural n => n

def atom (d : Dialect) (depth : Nat) : Nat → Reader Regex
  | 0 => throw .tooBig
  | fuel + 1 => do
    match d.extended, ← rest with
    | _, [] => return .empty
    | _, '[' :: r =>
      setRest r
      bracket d
    | _, '.' :: r =>
      setRest r
      return .one whole
    | true, '(' :: r =>
      setRest r
      grouped d depth fuel
    | false, '\\' :: '(' :: r =>
      setRest r
      grouped d depth fuel
    | false, '\\' :: '\x7b' :: r =>
      setRest r
      return char '\x7b'
    | _, '\\' :: r =>
      setRest r
      escaped d
    | _, c :: r =>
      setRest r
      return char c
termination_by structural n => n

def grouped (d : Dialect) (depth : Nat) : Nat → Reader Regex
  | 0 => throw .tooBig
  | fuel + 1 => do
    let n := (← get).groups + 1
    modify fun s => { s with groups := n }
    let inner ← alternatives d (depth + 1) fuel
    if !isClose d (← rest) then throw .openGroup
    drop (if d.extended then 1 else 2)
    modify fun s => { s with closed := n :: s.closed }
    return .group n inner
termination_by structural n => n

end

/-- Reads an expression: the expression, the number of its groups, and the operators that were
skipped. -/
def read (d : Dialect) (s : List Char) : Except Problem (Regex × Nat × List String) := do
  let (r, c) ← (alternatives d 0 (4 * s.length + 8)).run { rest := s }
  return (r, c.groups, c.skipped)

end JobMatrix.Regex
