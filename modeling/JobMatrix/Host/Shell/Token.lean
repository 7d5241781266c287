import JobMatrix.Dict
import JobMatrix.Host.Shell.Script

/-! The tokens of shell scripts, and the state in which a script is read. The text of an alias takes
the place of its name, and the alias is not replaced again before its text has been read. -/

namespace JobMatrix.Shell

inductive Token where
  | endOfFile
  | newline
  | semicolon
  | background
  | both
  | either
  | pipe
  | left
  | right
  | caseEnd
  /-- A redirection; tabs at the start of lines can be dropped from the text that follows. -/
  | redirect (descriptor : Nat) (kind : RedirectKind) (tabs : Bool)
  | word (w : Word)
  | keyword (s : String)

namespace Token

def name : Token → String
  | endOfFile => "end of file"
  | newline => "newline"
  | semicolon => "\";\""
  | background => "\"&\""
  | both => "\"&&\""
  | either => "\"||\""
  | pipe => "\"|\""
  | left => "\"(\""
  | right => "\")\""
  | caseEnd => "\";;\""
  | redirect .. => "redirection"
  | word _ => "word"
  | keyword s => "\"" ++ s ++ "\""

def isNewline : Token → Bool
  | newline => true
  | _ => false

def isKeyword (t : Token) (s : String) : Bool :=
  match t with
  | keyword k => k == s
  | _ => false

def endsList : Token → Bool
  | endOfFile => true
  | newline => true
  | right => true
  | caseEnd => true
  | keyword k => ["then", "else", "elif", "fi", "do", "done", "esac", "\x7d"].contains k
  | _ => false

end Token

def reserved : List String :=
  ["!", "case", "do", "done", "elif", "else", "esac", "fi", "for", "if", "in", "then", "until",
   "while", "\x7b", "\x7d"]

def specialCommands : List String :=
  [".", ":", "break", "continue", "eval", "exec", "exit", "export", "readonly", "return", "set",
   "shift", "times", "trap", "unset"]

structure Layer where
  name : String
  /-- How much of the script is left after the text. -/
  left : Nat
  /-- Whether the text ends with a blank, so that the next word may be an alias too. -/
  goesOn : Bool
deriving Repr

structure Checks where
  /-- Ends of lines are skipped. -/
  lines : Bool := false
  keywords : Bool := false
  aliases : Bool := false
  /-- The token marks the end of a text, so that nothing in it is expanded. -/
  mark : Bool := false
deriving Repr

/-- The rest of a script, the number of the present line, and how many lines after it have been taken
already. -/
structure Cursor where
  rest : List Char
  line : Nat := 1
  taken : Nat := 0
  layers : List Layer := []
  /-- A token that has been put back. -/
  pushed : Option Token := none
  last : Token := .endOfFile
  checks : Checks := {}
deriving Inhabited

abbrev Reader := ReaderT (Dict String String) (ExceptT String (StateM Cursor))

namespace Reader

def isBlank (c : Char) : Bool := c == ' ' || c == '\t'

def isMeta (c : Char) : Bool :=
  isBlank c || c == '\n' || c == ';' || c == '&' || c == '|' || c == '<' || c == '>' || c == '(' ||
    c == ')'

def isQuote (c : Char) : Bool := c == '\\' || c == '\'' || c == '"' || c == '\x60'

/-- Goes on by `n` characters. -/
def skip (n : Nat) : Reader Unit := modify fun c =>
  let ends := ((c.rest.take n).filter (· == '\n')).length
  if ends = 0 then { c with rest := c.rest.drop n }
  else { c with rest := c.rest.drop n, line := c.line + ends + c.taken, taken := 0 }

def takeWhile (p : Char → Bool) : Reader String := do
  let s := (← get).rest.takeWhile p
  skip s.length
  return String.ofList s

def peek? : Reader (Option Char) := do
  modify fun c =>
    let (rest, line) := go c.rest c.line
    { c with rest, line }
  return (← get).rest.head?
where
  go : List Char → Nat → List Char × Nat
    | '\\' :: '\n' :: rest, line => go rest (line + 1)
    | rest, line => (rest, line)

def accept (c : Char) : Reader Bool := do
  if (← peek?) == some c then
    skip 1
    return true
  else return false

def skipBlanks : Reader Unit := modify fun c =>
  let (rest, line) := go c.rest c.line
  { c with rest, line }
where
  go : List Char → Nat → List Char × Nat
    | '\\' :: '\n' :: rest, line => go rest (line + 1)
    | '#' :: rest, line => (rest.dropWhile (· != '\n'), line)
    | c :: rest, line => if isBlank c then go rest line else (c :: rest, line)
    | [], line => ([], line)

/-- Sees which texts of aliases have been read. After one that ends with a blank, the next word may be
an alias too. -/
def settle : Reader Unit := modify fun c =>
  if c.layers.isEmpty then c
  else
    let n := c.rest.length
    let (past, layers) := c.layers.partition fun l => n < l.left
    let aliases := c.checks.aliases || past.any (·.goesOn)
    { c with layers, checks := { c.checks with aliases } }

def replace (name text : String) : Reader Unit := modify fun c =>
  let goesOn := (text.toList.getLast?).elim false isBlank
  { c with
    rest := text.toList ++ c.rest
    layers := if text.isEmpty then c.layers else ⟨name, c.rest.length, goesOn⟩ :: c.layers }

def setChecks (checks : Checks) : Reader Unit := modify fun c => { c with checks }

def pushBack : Reader Unit := modify fun c => { c with pushed := some c.last }

def unexpected {α : Type} (expecting : String := "") : Reader α := do
  throw ((← get).last.name ++ " unexpected" ++
    (if expecting.isEmpty then "" else " (expecting " ++ expecting ++ ")"))

def untilQuote (quote : Char) : Reader String := do
  let s := (← get).rest.takeWhile (· != quote)
  if s.length == (← get).rest.length then
    skip s.length
    throw "Unterminated quoted string"
  skip (s.length + 1)
  return String.ofList s

def untilBackquote (quoted : Bool) : Reader String := do
  match go [] (← get).rest with
  | none =>
    skip (← get).rest.length
    throw "EOF in backquote substitution"
  | some (s, n) =>
    skip n
    return String.ofList s
where
  go (acc : List Char) (cs : List Char) (n : Nat := 0) : Option (List Char × Nat) :=
    match cs with
    | [] => none
    | '\x60' :: _ => some (acc.reverse, n + 1)
    | '\\' :: '\n' :: rest => go acc rest (n + 2)
    | '\\' :: c :: rest =>
      if c == '\x60' || c == '\\' || c == '$' || (quoted && c == '"') then
        go (c :: acc) rest (n + 2)
      else go (c :: '\\' :: acc) rest (n + 2)
    | c :: rest => go (c :: acc) rest (n + 1)

def lineLength (quote : Option Char) (fresh : Bool) : List Char → Nat
  | [] => 0
  | '\\' :: d :: rest =>
    if quote == some '\'' then
      1 + (if d == '\'' then 1 + lineLength none false rest else 1 + lineLength quote false rest)
    else 2 + lineLength quote false rest
  | c :: rest =>
    match quote with
    | some q => 1 + lineLength (if c == q then none else quote) false rest
    | none =>
      if c == '\n' then 0
      else if c == '#' && fresh then 1 + (rest.takeWhile (· != '\n')).length
      else if c == '\'' || c == '"' then 1 + lineLength (some c) false rest
      else 1 + lineLength none (isMeta c) rest

/-- The text up to a line that equals `ending`, and how many characters it takes with that line; tabs
at the start of lines are dropped if `tabs`. -/
def hereLines (tabs : Bool) (ending : List Char) : Nat → List Char → List Char × Nat
  | 0, _ => ([], 0)
  | _, [] => ([], 0)
  | fuel + 1, cs =>
    let line := cs.takeWhile (· != '\n')
    let after := cs.drop (line.length + 1)
    let shown := if tabs then line.dropWhile (· == '\t') else line
    if shown == ending then ([], line.length + 1)
    else
      let (text, n) := hereLines tabs ending fuel after
      let newline : List Char := if line.length < cs.length then ['\n'] else []
      (shown ++ newline ++ text, line.length + 1 + n)

/-- Takes the text that follows the present line, up to a line that equals `ending`. -/
def hereText (tabs : Bool) (ending : String) : Reader String := do
  let c ← get
  let present := c.rest.take (lineLength none false c.rest)
  let after := c.rest.drop (present.length + 1)
  let (text, n) := hereLines tabs ending.toList (after.length + 1) after
  let taken := c.taken + ((after.take n).filter (· == '\n')).length
  set { c with rest := present ++ (c.rest.drop present.length).take 1 ++ after.drop n, taken }
  return String.ofList text

end Reader

end JobMatrix.Shell
