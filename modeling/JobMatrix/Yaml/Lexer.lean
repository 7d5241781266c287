import JobMatrix.Yaml.Token

/-! The tokens of a YAML text in order. Indentation becomes tokens that open and close blocks, and a
colon turns the token it follows into a key after the fact. -/

namespace JobMatrix.Yaml

structure PossibleKey where
  /-- The place of the token among all tokens. -/
  place : Nat
  /-- Whether nothing but a key may stand there. -/
  required : Bool
  index : Nat
  line : Nat
  column : Nat

structure Lexer where
  cursor : Cursor
  tokens : Array Token := #[]
  /-- The column of the innermost block, and those of the blocks around it. -/
  indent : Int := -1
  indents : List Int := []
  /-- How many brackets are open. -/
  flow : Nat := 0
  /-- Whether a key may start here. -/
  keyAllowed : Bool := true
  /-- The possible keys, by the number of brackets open around them. -/
  keys : List (Nat × PossibleKey) := []

namespace Lexer

private def stop {α : Type} (p : Problem) : Except LoadError α := .error (.problem p)

def push (l : Lexer) (t : Token) : Lexer := { l with tokens := l.tokens.push t }

/-- Skips spaces, comments and line ends; `fuel` bounds their number. -/
def skipToToken : Nat → Lexer → Lexer
  | 0, l => l
  | fuel + 1, l =>
    let c := l.cursor.skipSpaces.skipComment
    match c.lineBreak? with
    | some (_, c) =>
      skipToToken fuel { l with cursor := c, keyAllowed := l.keyAllowed || l.flow == 0 }
    | none => { l with cursor := c }

/-- Drops the possible keys that can be keys no more: a key ends on its line, within 1024
characters. -/
def dropStale (l : Lexer) : Except LoadError Lexer :=
  let stale (k : PossibleKey) : Bool :=
    k.line != l.cursor.line || l.cursor.index - k.index > 1024
  if l.keys.any fun e => stale e.2 && e.2.required then stop .missingColon
  else .ok { l with keys := l.keys.filter fun e => !stale e.2 }

def dropKey (l : Lexer) : Except LoadError Lexer :=
  if l.keys.any fun e => e.1 == l.flow && e.2.required then stop .missingColon
  else .ok { l with keys := l.keys.filter fun e => e.1 != l.flow }

def noteKey (l : Lexer) : Except LoadError Lexer :=
  if l.keyAllowed then do
    let required := l.flow == 0 && l.indent == (l.cursor.column : Int)
    let key : PossibleKey :=
      { place := l.tokens.size, required, index := l.cursor.index, line := l.cursor.line
        column := l.cursor.column }
    let l ← l.dropKey
    return { l with keys := l.keys ++ [(l.flow, key)] }
  else .ok l

def unwind (column : Int) : List Int → Lexer → Lexer
  | outer :: rest, l =>
    if column < l.indent then
      unwind column rest { l.push .blockEnd with indent := outer, indents := rest }
    else l
  | [], l => l

def unwindTo (column : Int) (l : Lexer) : Lexer :=
  if l.flow == 0 then unwind column l.indents l else l

/-- Opens a block at a column deeper than the current one; the token that opens it goes to
`place`. -/
def openBlock (t : Token) (column place : Nat) (l : Lexer) : Lexer :=
  if l.indent < (column : Int) then
    { l with indents := l.indent :: l.indents, indent := column
             tokens := l.tokens.insertIdxIfInBounds place t }
  else l

def startsPlain (flow : Bool) (c : Cursor) : Bool :=
  let ch := c.peek
  !(isGap ch || "-?:,[]\x7b\x7d#&*!|>'\"%@\x60".toList.contains ch) ||
    (!isGap (c.peek 1) && (ch = '-' || (!flow && (ch = '?' || ch = ':'))))

def takeSign (t : Token) (keyAllowed : Bool) (l : Lexer) : Lexer :=
  { l.push t with keyAllowed, cursor := l.cursor.next }

def readStreamEnd (l : Lexer) : Except LoadError Lexer := do
  let l ← (l.unwindTo (-1)).dropKey
  return { l.push .streamEnd with keyAllowed := false, keys := [] }

def readDirective (l : Lexer) : Except LoadError Lexer := do
  let l ← (l.unwindTo (-1)).dropKey
  let (t, cursor) ← scanDirective l.cursor
  return { l.push t with keyAllowed := false, cursor }

def readSeparator (t : Token) (l : Lexer) : Except LoadError Lexer := do
  let l ← (l.unwindTo (-1)).dropKey
  return { l.push t with keyAllowed := false, cursor := l.cursor.advance 3 }

def readOpening (t : Token) (l : Lexer) : Except LoadError Lexer := do
  let l ← l.noteKey
  return { l.takeSign t true with flow := l.flow + 1 }

def readClosing (t : Token) (l : Lexer) : Except LoadError Lexer := do
  let l ← l.dropKey
  if l.flow = 0 then stop .unopenedBracket
  return { l.takeSign t false with flow := l.flow - 1 }

def readFlowEntry (l : Lexer) : Except LoadError Lexer := do
  let l ← l.dropKey
  return l.takeSign .flowEntry true

def readBlockEntry (l : Lexer) : Except LoadError Lexer := do
  if l.flow = 0 && !l.keyAllowed then stop .entryNotAllowed
  let l := if l.flow = 0 then l.openBlock .blockSequence l.cursor.column l.tokens.size else l
  let l ← l.dropKey
  return l.takeSign .blockEntry true

def readKey (l : Lexer) : Except LoadError Lexer := do
  if l.flow = 0 && !l.keyAllowed then stop .keyNotAllowed
  let l := if l.flow = 0 then l.openBlock .blockMapping l.cursor.column l.tokens.size else l
  let l ← l.dropKey
  return l.takeSign .key (l.flow == 0)

/-- Reads a colon. After a possible key it makes this a key; elsewhere it opens the value of a key
that was left out or is a node of its own. -/
def readValue (l : Lexer) : Except LoadError Lexer := do
  match l.keys.find? fun e => e.1 == l.flow with
  | some (_, key) =>
    let l := { l with keys := l.keys.filter fun e => e.1 != l.flow
                      tokens := l.tokens.insertIdxIfInBounds key.place .key }
    let l := if l.flow = 0 then l.openBlock .blockMapping key.column key.place else l
    return l.takeSign .value false
  | none =>
    if l.flow = 0 && !l.keyAllowed then stop .valueNotAllowed
    let l := if l.flow = 0 then l.openBlock .blockMapping l.cursor.column l.tokens.size else l
    let l ← l.dropKey
    return l.takeSign .value (l.flow == 0)

def readContent (scan : Cursor → Except LoadError (Token × Cursor)) (l : Lexer) :
    Except LoadError Lexer := do
  let l ← l.noteKey
  let (t, cursor) ← scan l.cursor
  return { l.push t with keyAllowed := false, cursor }

def readBlockScalar (folded : Bool) (l : Lexer) : Except LoadError Lexer := do
  let l ← l.dropKey
  let (t, cursor) ← scanBlockScalar folded l.indent l.cursor
  return { l.push t with keyAllowed := true, cursor }

def readPlain (l : Lexer) : Except LoadError Lexer := do
  let l ← l.noteKey
  let (t, newline, cursor) := scanPlain (l.flow != 0) l.indent l.cursor
  return { l.push t with keyAllowed := newline, cursor }

def readToken (l : Lexer) : Except LoadError Lexer := do
  let l := skipToToken (l.cursor.rest.length + 1) l
  let l ← l.dropStale
  let l := l.unwindTo l.cursor.column
  let c := l.cursor
  let ch := c.peek
  let block := l.flow == 0
  let atGap := isGap (c.peek 1)
  if ch = endMark then l.readStreamEnd
  else if ch = '%' && c.column = 0 then l.readDirective
  else if ch = '-' && c.column = 0 && c.atSeparator then l.readSeparator .documentStart
  else if ch = '.' && c.column = 0 && c.atSeparator then l.readSeparator .documentEnd
  else if ch = '[' then l.readOpening .flowSequence
  else if ch = '\x7b' then l.readOpening .flowMapping
  else if ch = ']' then l.readClosing .flowSequenceEnd
  else if ch = '\x7d' then l.readClosing .flowMappingEnd
  else if ch = ',' then l.readFlowEntry
  else if ch = '-' && atGap then l.readBlockEntry
  else if ch = '?' && (!block || atGap) then l.readKey
  else if ch = ':' && (!block || atGap) then l.readValue
  else if ch = '*' then
    l.readContent fun c => (scanAnchor c).map fun (name, c) => (.alias name, c)
  else if ch = '&' then
    l.readContent fun c => (scanAnchor c).map fun (name, c) => (.anchor name, c)
  else if ch = '!' then l.readContent scanTag
  else if ch = '|' && block then l.readBlockScalar false
  else if ch = '>' && block then l.readBlockScalar true
  else if ch = '\'' then l.readContent (scanQuoted false)
  else if ch = '"' then l.readContent (scanQuoted true)
  else if startsPlain (!block) c then l.readPlain
  else stop (.unexpectedCharacter ch)

/-- The tokens that later ones cannot change any more: those before the first possible key. -/
def settled (l : Lexer) : List Token :=
  match l.dropStale with
  | .error _ => []
  | .ok l => l.tokens.toList.take (l.keys.foldl (fun n e => min n e.2.place) l.tokens.size)

/-- Reads tokens up to the end of the text, or up to an obstacle; `fuel` bounds their number. -/
def readAll : Nat → Lexer → List Token × Option LoadError
  | 0, l => (l.tokens.toList, none)
  | fuel + 1, l =>
    match l.readToken with
    | .error e => (l.settled, some e)
    | .ok l =>
      if l.tokens.back? = some .streamEnd then (l.tokens.toList, none) else readAll fuel l

end Lexer

def isAllowed (c : Char) : Bool :=
  let n := c.toNat
  n = 9 || n = 10 || n = 13 || (0x20 ≤ n && n ≤ 0x7e) || n = 0x85 ||
    (0xa0 ≤ n && n ≤ 0xfffd) || 0x10000 ≤ n

def tokens (text : List Char) : List Token × Option LoadError :=
  match text.find? fun c => !isAllowed c with
  | some c => ([], some (.problem (.unprintable c)))
  | none =>
    let rest := if text.head? = some byteOrderMark then text.drop 1 else text
    Lexer.readAll (text.length + 2) { cursor := { rest } }

end JobMatrix.Yaml
