import JobMatrix.Host.Regex.Read

/-! Scripts that edit lines: their commands, and how they are read. What is wrong with a script is told
with the number of characters that were read up to there. -/

namespace JobMatrix.Program.Sed

/-- An expression and how it is matched; without one the last that was used is meant. -/
structure Pattern where
  regex : Option Regex := none
  ignoresCase : Bool := false
  inLines : Bool := false
  groups : Nat := 0
deriving Inhabited

inductive Address where
  | line (n : Nat)
  | step (first step : Nat)
  | last
  | pattern (p : Pattern)
  /-- So many lines after the first. -/
  | plus (n : Nat)
  /-- Up to the next line with a multiple as its number. -/
  | multiple (n : Nat)
deriving Inhabited

inductive Casing where
  | upper
  | lower
  | asIs
  | upperOnce
  | lowerOnce
deriving DecidableEq, Repr, Inhabited

inductive Piece where
  | text (cs : List Char)
  | group (n : Nat)
  | casing (c : Casing)
deriving Inhabited

structure Substitution where
  pattern : Pattern
  pieces : List Piece
  global : Bool := false
  number : Nat := 1
  prints : Bool := false
  runs : Bool := false
  target : Option String := none
deriving Inhabited

inductive Condition where
  | always
  | replaced
  | notReplaced
deriving DecidableEq, Repr, Inhabited

inductive Action where
  /-- Goes on after a number of commands unless the lines are right. -/
  | block (stop : Nat)
  | nothing
  | jump (c : Condition) (label : Option String) (target : Nat)
  | append (text : List Char)
  | insert (text : List Char)
  | change (text : List Char)
  | delete
  | deleteFirst
  | run (command : List Char)
  | name
  | get
  | getAppended
  | hold
  | holdAppended
  | exchange
  | empty
  | list (width : Option Nat)
  | next
  | nextAppended
  | print
  | printFirst
  | number
  | quit (code : Nat) (silent : Bool)
  | read (path : String)
  | readLine (path : String)
  | write (path : String)
  | writeFirst (path : String)
  | substitute (s : Substitution)
  | translate (table : List (Char × Char))
deriving Inhabited

structure Command where
  first : Option Address := none
  second : Option Address := none
  negated : Bool := false
  action : Action
deriving Inhabited

/-- What is left of a script, how many characters were read, and what has been read: commands, the
latest first, blocks that are open, and labels. -/
structure Cursor where
  rest : List Char
  taken : Nat := 0
  commands : List Command := []
  blocks : List Nat := []
  labels : List (String × Nat) := []
  silent : Bool := false
  extended : Bool := false

/-- Where a script is wrong, and why; at no place if its end is. -/
structure Mistake where
  place : Option Nat
  text : String

abbrev Reader := StateT Cursor (Except Mistake)

namespace Reader

def fail {α : Type} (text : String) : Reader α := do throw ⟨some (← get).taken, text⟩

def next : Reader (Option Char) := do
  let s ← get
  match s.rest with
  | [] => return none
  | c :: rest =>
    set { s with rest, taken := s.taken + 1 }
    return some c

def back (c : Option Char) : Reader Unit :=
  match c with
  | none => return ()
  | some c => modify fun s => { s with rest := c :: s.rest, taken := s.taken - 1 }

def isBlank (c : Char) : Bool := c == ' ' || c == '\t'

def accept (c : Char) : Reader Bool := do
  let s ← get
  if s.rest.head? == some c then
    set { s with rest := s.rest.drop 1, taken := s.taken + 1 }
    return true
  else return false

def nextFilled : Reader (Option Char) := do
  let s ← get
  let blanks := s.rest.takeWhile isBlank
  set { s with rest := s.rest.drop blanks.length, taken := s.taken + blanks.length }
  next

def takeWhile (fits : Char → Bool) : Reader (List Char) := do
  let s ← get
  let cs := s.rest.takeWhile fits
  set { s with rest := s.rest.drop cs.length, taken := s.taken + cs.length }
  return cs

def number (first : Option Char) : Reader Nat := do
  match first with
  | some c =>
    if c.isDigit then
      let ds ← takeWhile Char.isDigit
      return Number.natOfDigits (c :: ds)
    else
      back first
      return 0
  | none => return 0

def finish : Reader Unit := do
  let c ← nextFilled
  match c with
  | none => return ()
  | some '\n' => return ()
  | some ';' => return ()
  | some '\x7d' => back c
  | some '#' => back c
  | some _ => fail "extra characters after command"

/-- Reads a set of characters after its opening bracket as it stands, with the bracket that closes it.
The depth says whether a class within it has been opened or closed. -/
def bracket : Nat → Nat → Char → Reader (Option (List Char))
  | 0, _, _ => return none
  | fuel + 1, depth, mark => do
    match ← next with
    | none => return none
    | some '\n' =>
      back (some '\n')
      return none
    | some c =>
      let go (depth : Nat) (mark : Char) : Reader (Option (List Char)) := do
        return (← bracket fuel depth mark).map (c :: ·)
      let plain := depth - depth % 2
      if c == '.' || c == ':' || c == '=' then
        if depth == 1 then go 2 c
        else if depth == 2 && c == mark then go 3 mark
        else go plain mark
      else if c == '[' then go (if depth == 0 then 1 else depth) mark
      else if c == ']' then
        if depth ≤ 1 then return some [c]
        else if depth == 3 then go 0 mark
        else go plain mark
      else go plain mark

/-- Reads up to a delimiter, none if it does not come on this line. A backslash before it is taken
away. In an expression, brackets hide it. -/
def delimited (slash : Char) (regex : Bool) : Nat → Reader (Option (List Char))
  | 0 => return none
  | fuel + 1 => do
    match ← next with
    | none => return none
    | some '\n' =>
      back (some '\n')
      return none
    | some c =>
      let with' (cs : List Char) : Reader (Option (List Char)) := do
        return (← delimited slash regex fuel).map (cs ++ ·)
      if c == slash then return some []
      else if c == '\\' then
        match ← next with
        | none => return none
        | some d =>
          if d == 'n' && regex && slash != 'n' then with' ['\\', 'n']
          else if d == slash && !(d == '&' && !regex) then with' [d]
          else if d == '\n' && regex then with' [d]
          else with' ['\\', d]
      else if c == '[' && regex then
        let caret ← accept '^'
        let close ← accept ']'
        match ← bracket fuel 0 ':' with
        | none => return none
        | some inside =>
          with' ('[' :: (if caret then ['^'] else []) ++ (if close then [']'] else []) ++ inside)
      else with' [c]

end Reader

open Reader

def escape? (cs : List Char) : Option (Char × Nat) :=
  match cs with
  | [] => none
  | c :: _ =>
    match Regex.control? c with
    | some k => some (k, 1)
    | none => Regex.numbered? cs

/-- A text with its escapes replaced; `skip` characters belong to one that has been. -/
def unescape (skip : Nat) : List Char → List Char
  | [] => []
  | c :: rest =>
    match skip with
    | n + 1 => unescape n rest
    | 0 =>
      if c != '\\' then c :: unescape 0 rest
      else match escape? rest with
        | some (k, n) => k :: unescape n rest
        | none => rest.take 1 ++ unescape 1 rest

def untilSlash (slash : Char) (regex : Bool) : Reader (Option (List Char)) := do
  delimited slash regex ((← get).rest.length + 1)

def pattern (text : List Char) (ignoresCase inLines : Bool) : Reader Pattern := do
  if text.isEmpty then
    if ignoresCase || inLines then fail "cannot specify modifiers on empty regexp"
    return {}
  match Regex.read { extended := (← get).extended, strict := true, controls := true } text with
  | .ok (r, groups, _) => return { regex := some r, ignoresCase, inLines, groups }
  | .error e => fail e.text

def flagged (text : List Char) : Nat → Bool → Bool → Reader Pattern
  | 0, i, m => pattern text i m
  | fuel + 1, i, m => do
    let c ← nextFilled
    match c with
    | some 'I' => flagged text fuel true m
    | some 'M' => flagged text fuel i true
    | c =>
      back c
      pattern text i m

/-- Reads an address that starts with a character; none if there is none. -/
def address (c : Option Char) : Reader (Option Address) := do
  match c with
  | none => return none
  | some '$' => return some .last
  | some c =>
    if c == '/' || c == '\\' then
      let slash ← if c == '\\' then next else pure (some c)
      match slash with
      | none => fail "unterminated address regex"
      | some slash =>
        match ← untilSlash slash true with
        | none => fail "unterminated address regex"
        | some text => return some (.pattern (← flagged text ((← get).rest.length + 1) false false))
    else if c.isDigit then
      let n ← number (some c)
      let d ← nextFilled
      if d == some '~' then
        let step ← number (← nextFilled)
        return some (if step == 0 then .line n else .step n step)
      else
        back d
        return some (.line n)
    else if c == '+' || c == '~' then
      let n ← number (← nextFilled)
      return some (if c == '+' then .plus n else .multiple n)
    else return none

def addresses (c : Option Char) : Reader (Option Address × Option Address × Option Char) := do
  match ← address c with
  | none => return (none, none, c)
  | some first =>
    match first with
    | .plus _ => fail "invalid usage of +N or ~N as first address"
    | .multiple _ => fail "invalid usage of +N or ~N as first address"
    | _ => pure ()
    let c ← nextFilled
    let (second, c) ← if c == some ',' then do
        match ← address (← nextFilled) with
        | none => fail "unexpected \x60,'"
        | some second => pure (some second, ← nextFilled)
      else pure (none, c)
    match first, second with
    | .line 0, some (.pattern _) => pure ()
    | .line 0, _ => fail "invalid usage of line address 0"
    | _, _ => pure ()
    return (some first, second, c)

def textLine : Nat → Reader (List Char)
  | 0 => return []
  | fuel + 1 => do
    match ← next with
    | none => return ['\n']
    | some '\n' => return ['\n']
    | some '\\' =>
      match ← next with
      | none => return ['\n']
      | some c =>
        let s ← get
        match if c == '\n' then none else escape? (c :: s.rest) with
        | some (k, n) =>
          let _ ← (List.range (n - 1)).mapM fun _ => next
          return k :: (← textLine fuel)
        | none => return c :: (← textLine fuel)
    | some c => return c :: (← textLine fuel)

def addition : Reader (List Char) := do
  let all := (← get).rest.length + 1
  let c ← nextFilled
  match c with
  | none => fail "expected \\ after \x60a', \x60c' or \x60i'"
  | some '\\' =>
    let d ← next
    match d with
    | none => return []
    | some '\n' => if (← get).rest.isEmpty then return ['\n'] else textLine all
    | d =>
      back d
      match ← next with
      | some '\\' =>
        back (some '\\')
        textLine all
      | some c => return c :: (← textLine all)
      | none => return []
  | c =>
    back c
    textLine all

def label : Reader String := do
  let c ← nextFilled
  back c
  let cs ← takeWhile fun c => !(c == '\n' || c == ';' || c == '\x7d' || Text.isWhite c)
  return String.ofList cs

def path : Reader String := do
  let c ← nextFilled
  back c
  let cs ← takeWhile (· != '\n')
  if cs.isEmpty then fail "missing filename in r/R/w/W commands"
  return String.ofList cs

/-- The parts of a replacement; `skip` characters belong to an escape that has been read. -/
def pieces (skip : Nat) (text : List Char) : List Char → List Piece
  | [] => if text.isEmpty then [] else [.text text.reverse]
  | c :: rest =>
    match skip with
    | n + 1 => pieces n text rest
    | 0 =>
      let before := if text.isEmpty then [] else [Piece.text text.reverse]
      if c == '&' then before ++ .group 0 :: pieces 0 [] rest
      else if c != '\\' then pieces 0 (c :: text) rest
      else match rest with
        | [] => before
        | d :: _ =>
          if d.isDigit then before ++ .group (d.toNat - 48) :: pieces 1 [] rest
          else match casing? d with
            | some k => before ++ .casing k :: pieces 1 [] rest
            | none =>
              match escape? rest with
              | some (k, n) => pieces n (k :: text) rest
              | none => pieces 1 (d :: text) rest
where
  casing? (c : Char) : Option Casing :=
    match c with
    | 'U' => some .upper
    | 'L' => some .lower
    | 'E' => some .asIs
    | 'u' => some .upperOnce
    | 'l' => some .lowerOnce
    | _ => none

structure Flags where
  global : Bool := false
  prints : Bool := false
  number : Option Nat := none
  ignoresCase : Bool := false
  inLines : Bool := false
  runs : Bool := false
  target : Option String := none

def flags : Nat → Flags → Reader Flags
  | 0, f => return f
  | fuel + 1, f => do
    let c ← next
    match c with
    | none => return f
    | some '\n' => return f
    | some ';' => return f
    | some '\x7d' =>
      back c
      return f
    | some '#' =>
      back c
      return f
    | some 'i' => flags fuel { f with ignoresCase := true }
    | some 'I' => flags fuel { f with ignoresCase := true }
    | some 'm' => flags fuel { f with inLines := true }
    | some 'M' => flags fuel { f with inLines := true }
    | some 'e' => flags fuel { f with runs := true }
    | some 'p' =>
      if f.prints then fail "multiple \x60p' options to \x60s' command"
      flags fuel { f with prints := true }
    | some 'g' =>
      if f.global then fail "multiple \x60g' options to \x60s' command"
      flags fuel { f with global := true }
    | some 'w' => return { f with target := some (← path) }
    | some d =>
      if d.isDigit then
        if f.number.isSome then fail "multiple number options to \x60s' command"
        let n ← number c
        if n == 0 then fail "number option to \x60s' command may not be zero"
        flags fuel { f with number := some n }
      else if isBlank d then flags fuel f
      else fail "unknown option to \x60s'"

def substitution : Reader Substitution := do
  let wrong := "unterminated \x60s' command"
  match ← next with
  | none => fail wrong
  | some slash =>
    let some text ← untilSlash slash true | fail wrong
    let some replacement ← untilSlash slash false | fail wrong
    let f ← flags ((← get).rest.length + 1) {}
    let p ← pattern text f.ignoresCase f.inLines
    let ps := pieces 0 [] replacement
    let most := ps.foldl (fun n p => match p with
      | .group k => max n k
      | _ => n) 0
    if p.regex.isSome && p.groups < most then
      fail s!"invalid reference \\{most} on \x60s' command's RHS"
    return { pattern := p, pieces := ps, global := f.global, number := f.number.getD 1
             prints := f.prints, runs := f.runs, target := f.target }

def translation : Reader (List (Char × Char)) := do
  let wrong := "unterminated \x60y' command"
  match ← next with
  | none => fail wrong
  | some slash =>
    let some left ← untilSlash slash false | fail wrong
    let some right ← untilSlash slash false | fail wrong
    let left := unescape 0 left
    let right := unescape 0 right
    if left.length != right.length then fail "strings for \x60y' command are different lengths"
    finish
    return left.zip right

def action (c : Char) (ranged : Bool) : Reader Action := do
  let plain (a : Action) : Reader Action := do
    finish
    return a
  let single : Reader Unit := if ranged then fail "command only uses one address" else return ()
  let argument : Reader (Option Nat) := do
    let c ← nextFilled
    match c with
    | some d =>
      if d.isDigit then return some (← number c)
      back c
      return none
    | none => return none
  match c with
  | '=' => plain .number
  | 'd' => plain .delete
  | 'D' => plain .deleteFirst
  | 'F' => plain .name
  | 'g' => plain .get
  | 'G' => plain .getAppended
  | 'h' => plain .hold
  | 'H' => plain .holdAppended
  | 'x' => plain .exchange
  | 'z' => plain .empty
  | 'n' => plain .next
  | 'N' => plain .nextAppended
  | 'p' => plain .print
  | 'P' => plain .printFirst
  | 'a' => return .append (← addition)
  | 'i' => return .insert (← addition)
  | 'c' => return .change (← addition)
  | 'e' =>
    let c ← nextFilled
    match c with
    | none => return .run []
    | some '\n' => return .run []
    | c =>
      back c
      let text ← textLine ((← get).rest.length + 1)
      return .run text
  | 'l' =>
    let n ← argument
    plain (.list n)
  | 'q' =>
    single
    let n ← argument
    plain (.quit (n.getD 0) false)
  | 'Q' =>
    single
    let n ← argument
    plain (.quit (n.getD 0) true)
  | 'r' => return .read (← path)
  | 'R' => return .readLine (← path)
  | 'w' => return .write (← path)
  | 'W' => return .writeFirst (← path)
  | 's' => return .substitute (← substitution)
  | 'y' => return .translate (← translation)
  | 'b' => return .jump .always (some (← label)) 0
  | 't' => return .jump .replaced (some (← label)) 0
  | 'T' => return .jump .notReplaced (some (← label)) 0
  | 'v' =>
    let version ← label
    let known := version.isEmpty || (version.toList.headD 'x').isDigit &&
      (version.startsWith "4." || (version.toList.headD '9') < '4')
    if !known then fail "expected newer version of sed"
    return .nothing
  | c => fail ("unknown command: \x60" ++ String.singleton c ++ "'")

def add (c : Command) : Reader Unit := modify fun s => { s with commands := c :: s.commands }

def closeBlock : Reader Unit := do
  let s ← get
  match s.blocks with
  | [] => fail "unexpected \x60\x7d'"
  | start :: blocks =>
    let count := s.commands.length
    let index := count - 1 - start
    let commands := s.commands.zipIdx.map fun c =>
      if c.2 == index then { c.1 with action := .block count } else c.1
    set { s with commands, blocks }

/-- Reads all commands; `fuel` bounds their number. -/
def commands : Nat → Reader Unit
  | 0 => return ()
  | fuel + 1 => do
    let _ ← takeWhile fun c => c == ';' || Text.isWhite c
    match ← next with
    | none => return ()
    | c =>
      let (first, second, c) ← addresses c
      let (negated, c) ← if c == some '!' then do
          let c ← nextFilled
          if c == some '!' then fail "multiple \x60!'s"
          pure (true, c)
        else pure (false, c)
      match c with
      | none => fail "missing command"
      | some '#' =>
        if first.isSome then fail "comments don't accept any addresses"
        let start := (← get).taken == 1
        let text ← takeWhile (· != '\n')
        if start && text.head? == some 'n' then modify fun s => { s with silent := true }
        commands fuel
      | some ':' =>
        if first.isSome then fail ": doesn't want any addresses"
        let name ← label
        if name.isEmpty then fail "\":\" lacks a label"
        modify fun s => { s with labels := (name, s.commands.length) :: s.labels }
        commands fuel
      | some '\x7b' =>
        modify fun s => { s with blocks := s.commands.length :: s.blocks }
        add { first, second, negated, action := .block 0 }
        commands fuel
      | some '\x7d' =>
        if (← get).blocks.isEmpty then fail "unexpected \x60\x7d'"
        if first.isSome then fail "\x7d doesn't want any addresses"
        finish
        closeBlock
        commands fuel
      | some c =>
        let action ← action c second.isSome
        add { first, second, negated, action }
        commands fuel

structure Script where
  commands : Array Command
  silent : Bool

def resolve (labels : List (String × Nat)) (count : Nat) (a : Action) : Except Mistake Action :=
  match a with
  | .jump c (some name) _ =>
    if name.isEmpty then .ok (.jump c none count)
    else match labels.lookup name with
      | some n => .ok (.jump c (some name) n)
      | none => .error ⟨none, "can't find label for jump to \x60" ++ name ++ "'"⟩
  | a => .ok a

def read (extended : Bool) (text : List Char) : Except Mistake Script := do
  let ((), s) ← (commands (text.length + 1)).run { rest := text, extended }
  if !s.blocks.isEmpty then throw ⟨some 0, "unmatched \x60\x7b'"⟩
  let all ← s.commands.reverse.mapM fun c => do
    return { c with action := ← resolve s.labels s.commands.length c.action }
  return { commands := all.toArray, silent := s.silent }

end JobMatrix.Program.Sed
