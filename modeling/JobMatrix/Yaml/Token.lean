import JobMatrix.Value.Json
import JobMatrix.Yaml.Cursor
import JobMatrix.Yaml.Problem

/-! The tokens of a YAML text, and the scanning of those that have a content of their own: names,
tags, directives and scalars. -/

namespace JobMatrix.Yaml

inductive Token where
  | versionDirective (major : Nat)
  | tagDirective (handle lead : String)
  | otherDirective
  | documentStart
  | documentEnd
  | streamEnd
  | blockSequence
  | blockMapping
  | blockEnd
  | flowSequence
  | flowSequenceEnd
  | flowMapping
  | flowMappingEnd
  | blockEntry
  | flowEntry
  | key
  | value
  | alias (name : String)
  | anchor (name : String)
  | tag (handle : Option String) (suffix : String)
  /-- A scalar by the code points of its text. -/
  | scalar (plain : Bool) (text : List Nat)
deriving DecidableEq, Repr, Inhabited

private def refuse {α : Type} (p : Problem) : Except LoadError α := .error (.problem p)

def isNameChar (c : Char) : Bool := c.isAlphanum || c = '-' || c = '_'

def scanAnchor (c : Cursor) : Except LoadError (String × Cursor) :=
  let (name, c) := c.next.takeWhile isNameChar
  if name.isEmpty then refuse .badAnchor
  else if isGap c.peek || ['?', ':', ',', ']', '\x7d', '%', '@', '\x60'].contains c.peek then
    .ok (String.ofList name, c)
  else refuse .badAnchor

def isUriChar (c : Char) : Bool :=
  c.isAlphanum || "-;/?:@&=+$,_.!~*'()[]".toList.contains c

def escapedBytes : List Char → Option (List UInt8)
  | [] => some []
  | '%' :: a :: b :: rest =>
    match Json.hexValue? a, Json.hexValue? b with
    | some x, some y => (escapedBytes rest).map (UInt8.ofNat (16 * x + y) :: ·)
    | _, _ => none
  | _ => none

def escapeLength : List Char → Nat
  | '%' :: a :: b :: rest =>
    if (Json.hexValue? a).isSome && (Json.hexValue? b).isSome then escapeLength rest + 3 else 1
  | '%' :: _ => 1
  | _ => 0

/-- The text of a tag; `fuel` bounds its length. -/
def scanUri : Nat → List Char → Cursor → Except LoadError (String × Cursor)
  | 0, _, _ => refuse .badTag
  | fuel + 1, acc, c =>
    let (chars, after) := c.takeWhile isUriChar
    if after.peek = '%' then
      let n := escapeLength after.rest
      match (escapedBytes (after.rest.take n)).bind fun bytes =>
          String.fromUTF8? ⟨bytes.toArray⟩ with
      | some s => scanUri fuel (acc ++ chars ++ s.toList) (after.advance n)
      | none => refuse .badTag
    else if (acc ++ chars).isEmpty then refuse .badTag
    else .ok (String.ofList (acc ++ chars), after)

def scanHandle (c : Cursor) : Except LoadError (String × Cursor) :=
  if c.peek ≠ '!' then refuse .badTag
  else if c.peek 1 = ' ' then .ok ("!", c.next)
  else
    let (name, after) := c.next.takeWhile isNameChar
    if after.peek = '!' then .ok (String.ofList ('!' :: name ++ ['!']), after.next)
    else refuse .badTag

def scanTag (c : Cursor) : Except LoadError (Token × Cursor) := do
  let fuel := c.rest.length + 1
  let (token, after) ←
    if c.peek 1 = '<' then do
      let (suffix, after) ← scanUri fuel [] (c.advance 2)
      if after.peek = '>' then pure (Token.tag none suffix, after.next) else refuse .badTag
    else if isGap (c.peek 1) then pure (Token.tag none "!", c.next)
    else do
      let word := (c.rest.drop 1).takeWhile fun ch => !isSpaceOrEnd ch
      let (handle, after) ← if word.contains '!' then scanHandle c else pure ("!", c.next)
      let (suffix, after) ← scanUri fuel [] after
      pure (Token.tag (some handle) suffix, after)
  if isSpaceOrEnd after.peek then pure (token, after) else refuse .badTag

def scanIgnoredLine (p : Problem) (c : Cursor) : Except LoadError Cursor :=
  let c := c.skipSpaces.skipComment
  match c.lineBreak? with
  | some (_, c) => .ok c
  | none => if c.peek = endMark then .ok c else refuse p

def scanVersionPart (c : Cursor) : Except LoadError (Nat × Cursor) :=
  let (digits, c) := c.takeWhile Char.isDigit
  if digits.isEmpty then refuse .badDirective
  else if Scalar.digitLimit < digits.length then .error (.fault (.tooManyDigits digits.length))
  else .ok (Number.natOfDigits digits, c)

def scanDirective (c : Cursor) : Except LoadError (Token × Cursor) := do
  let (name, c) := c.next.takeWhile isNameChar
  if name.isEmpty || !isSpaceOrEnd c.peek then refuse .badDirective
  let (token, c) ← match String.ofList name with
    | "YAML" => do
      let (major, c) ← scanVersionPart c.skipSpaces
      if c.peek ≠ '.' then refuse .badDirective
      let (_, c) ← scanVersionPart c.next
      if isSpaceOrEnd c.peek then pure (Token.versionDirective major, c) else refuse .badDirective
    | "TAG" => do
      let (handle, c) ← scanHandle c.skipSpaces
      if c.peek ≠ ' ' then refuse .badDirective
      let (lead, c) ← scanUri (c.rest.length + 1) [] c.skipSpaces
      if isSpaceOrEnd c.peek then pure (Token.tagDirective handle lead, c)
      else refuse .badDirective
    | _ => pure (Token.otherDirective, c.skipWhile (!isLineEnd ·))
  return (token, ← scanIgnoredLine .badDirective c)

inductive Chomping where
  | strip
  | clip
  | keep
deriving DecidableEq

/-- The indicators after the sign of a block scalar: chomping and a number for the indentation, in
either order. -/
def scanBlockHeader (c : Cursor) : Except LoadError ((Chomping × Option Nat) × Cursor) := do
  let chomping? (c : Cursor) : Option Chomping :=
    if c.peek = '+' then some .keep else if c.peek = '-' then some .strip else none
  let indent? (c : Cursor) : Option Nat :=
    if c.peek.isDigit then some (c.peek.toNat - 48) else none
  let (chomping, indent, c) := match chomping? c with
    | some chomping =>
      match indent? c.next with
      | some n => (chomping, some n, c.advance 2)
      | none => (chomping, none, c.next)
    | none =>
      match indent? c with
      | some n =>
        match chomping? c.next with
        | some chomping => (chomping, some n, c.advance 2)
        | none => (.clip, some n, c.next)
      | none => (.clip, none, c)
  if indent = some 0 || !isSpaceOrEnd c.peek then refuse .badBlockHeader
  return ((chomping, indent), c)

/-- Leading blank lines and spaces of a block scalar: the line ends, the greatest column reached by
spaces, and the cursor after them. -/
def scanBlockIndent : Nat → List Char → Nat → Cursor → List Char × Nat × Cursor
  | 0, breaks, most, c => (breaks, most, c)
  | fuel + 1, breaks, most, c =>
    if c.peek = ' ' then scanBlockIndent fuel breaks (max most c.next.column) c.next
    else
      match c.lineBreak? with
      | some (ch, c) => scanBlockIndent fuel (breaks ++ [ch]) most c
      | none => (breaks, most, c)

def skipToColumn (column : Nat) (c : Cursor) : Cursor :=
  let spaces := (c.rest.takeWhile (· = ' ')).length
  c.advance (min spaces (column - c.column))

def scanBlockBreaks (column : Nat) : Nat → List Char → Cursor → List Char × Cursor
  | 0, breaks, c => (breaks, c)
  | fuel + 1, breaks, c =>
    let c := skipToColumn column c
    match c.lineBreak? with
    | some (ch, c) => scanBlockBreaks column fuel (breaks ++ [ch]) c
    | none => (breaks, c)

/-- The lines of a block scalar: `breaks` are the line ends since the last line. The result is the
text, the last line end and the blank lines after it. -/
def scanBlockLines (folded : Bool) (column : Nat) :
    Nat → List Char → List Char → Cursor → List Char × List Char × List Char × Cursor
  | 0, text, breaks, c => (text, [], breaks, c)
  | fuel + 1, text, breaks, c =>
    let flush := c.peek ≠ ' ' ∧ c.peek ≠ '\t'
    let (line, c) := c.takeWhile (!isLineEnd ·)
    let (ending, c) := match c.lineBreak? with
      | some (ch, c) => ([ch], c)
      | none => ([], c)
    let text := text ++ breaks ++ line
    let (breaks, c) := scanBlockBreaks column (fuel + 1) [] c
    if c.column = column ∧ c.peek ≠ endMark then
      let joint :=
        if folded ∧ ending = ['\n'] ∧ flush ∧ c.peek ≠ ' ' ∧ c.peek ≠ '\t' then
          if breaks.isEmpty then [' '] else []
        else ending
      scanBlockLines folded column fuel (text ++ joint) breaks c
    else (text, ending, breaks, c)

/-- A block scalar; `indent` is the indentation of the block it stands in. -/
def scanBlockScalar (folded : Bool) (indent : Int) (c : Cursor) :
    Except LoadError (Token × Cursor) := do
  let ((chomping, increment), c) ← scanBlockHeader c.next
  let c ← scanIgnoredLine .badBlockHeader c
  let fuel := c.rest.length + 1
  let least := (max (indent + 1) 1).toNat
  let (breaks, column, c) := match increment with
    | none =>
      let (breaks, most, c) := scanBlockIndent fuel [] 0 c
      (breaks, max least most, c)
    | some n =>
      let column := least + n - 1
      let (breaks, c) := scanBlockBreaks column fuel [] c
      (breaks, column, c)
  let (text, ending, breaks, c) :=
    if c.column = column ∧ c.peek ≠ endMark then scanBlockLines folded column fuel [] breaks c
    else ([], [], breaks, c)
  let tail := match chomping with
    | .strip => []
    | .clip => ending
    | .keep => ending ++ breaks
  return (.scalar false ((text ++ tail).map Char.toNat), c)

def scanQuotedBreaks : Nat → List Char → Cursor → Except LoadError (List Char × Cursor)
  | 0, _, _ => refuse .unclosedQuote
  | fuel + 1, breaks, c =>
    if c.atSeparator then refuse .separatorInQuotes
    else
      let c := c.skipWhile fun ch => ch = ' ' || ch = '\t'
      match c.lineBreak? with
      | some (ch, c) => scanQuotedBreaks fuel (breaks ++ [ch]) c
      | none => .ok (breaks, c)

/-- The line end before `breaks` as it counts in the text: a single one is a space. -/
def foldedBreak (ch : Char) (breaks : List Char) : List Char :=
  (if ch ≠ '\n' then [ch] else if breaks.isEmpty then [' '] else []) ++ breaks

def scanQuotedSpaces (c : Cursor) : Except LoadError (List Char × Cursor) := do
  let (spaces, c) := c.takeWhile fun ch => ch = ' ' || ch = '\t'
  match c.lineBreak? with
  | some (ch, c) =>
    let (breaks, c) ← scanQuotedBreaks (c.rest.length + 1) [] c
    return (foldedBreak ch breaks, c)
  | none => if c.peek = endMark then refuse .unclosedQuote else return (spaces, c)

def escapes : List (Char × Nat) :=
  [('0', 0), ('a', 7), ('b', 8), ('t', 9), ('\t', 9), ('n', 10), ('v', 11), ('f', 12), ('r', 13),
   ('e', 27), (' ', 32), ('"', 34), ('\\', 92), ('/', 47), ('N', 0x85), ('_', 0xa0),
   ('L', 0x2028), ('P', 0x2029)]

def codeEscapes : List (Char × Nat) := [('x', 2), ('u', 4), ('U', 8)]

def scanEscape (c : Cursor) : Except LoadError (List Nat × Cursor) :=
  let ch := c.peek
  match Dict.get? escapes ch, Dict.get? codeEscapes ch with
  | some n, _ => .ok ([n], c.next)
  | _, some count =>
    let digits := c.next.rest.take count
    if digits.length = count ∧ digits.all fun d => (Json.hexValue? d).isSome then
      let code := digits.foldl (fun n d => 16 * n + (Json.hexValue? d).getD 0) 0
      if code < 0x110000 then .ok ([code], c.next.advance count)
      else .error (.fault (if code < 2 ^ 31 then .codeOutOfRange else .codeTooLarge))
    else refuse .badEscape
  | none, none =>
    match c.lineBreak? with
    | some (_, c) =>
      (scanQuotedBreaks (c.rest.length + 1) [] c).map fun (breaks, c) => (breaks.map Char.toNat, c)
    | none => refuse .badEscape

def scanQuotedWord (double : Bool) :
    Nat → List Nat → Cursor → Except LoadError (List Nat × Cursor)
  | 0, text, c => .ok (text, c)
  | fuel + 1, text, c =>
    let (chars, c) := c.takeWhile fun ch =>
      !(isGap ch || ch = '\'' || ch = '"' || ch = '\\')
    let text := text ++ chars.map Char.toNat
    let ch := c.peek
    if !double && ch = '\'' && c.peek 1 = '\'' then
      scanQuotedWord double fuel (text ++ [ch.toNat]) (c.advance 2)
    else if (double && ch = '\'') || (!double && (ch = '"' || ch = '\\')) then
      scanQuotedWord double fuel (text ++ [ch.toNat]) c.next
    else if double && ch = '\\' then
      match scanEscape c.next with
      | .ok (points, c) => scanQuotedWord double fuel (text ++ points) c
      | .error e => .error e
    else .ok (text, c)

def scanQuotedRest (double : Bool) :
    Nat → List Nat → Cursor → Except LoadError (List Nat × Cursor)
  | 0, _, _ => refuse .unclosedQuote
  | fuel + 1, text, c => do
    let (text, c) ← scanQuotedWord double (c.rest.length + 1) text c
    if c.peek = (if double then '"' else '\'') then return (text, c.next)
    else
      let (spaces, c) ← scanQuotedSpaces c
      scanQuotedRest double fuel (text ++ spaces.map Char.toNat) c

def scanQuoted (double : Bool) (c : Cursor) : Except LoadError (Token × Cursor) := do
  let (text, c) ← scanQuotedRest double (c.rest.length + 1) [] c.next
  return (.scalar false text, c)

/-- The length of a run of a plain scalar: up to a gap, a colon before a gap or, inside brackets,
one of their signs. -/
def plainLength (flow : Bool) : List Char → Nat
  | [] => 0
  | ch :: rest =>
    let after := rest.headD endMark
    if isGap ch || (ch = ':' && (isGap after || (flow && ",[]\x7b\x7d".toList.contains after))) ||
        (flow && ",?[]\x7b\x7d".toList.contains ch) then 0
    else plainLength flow rest + 1

/-- Blank lines and indentation inside a plain scalar; none before a document separator. -/
def scanPlainBreaks : Nat → List Char → Cursor → Option (List Char) × Cursor
  | 0, breaks, c => (some breaks, c)
  | fuel + 1, breaks, c =>
    if c.peek = ' ' then scanPlainBreaks fuel breaks c.next
    else
      match c.lineBreak? with
      | some (ch, c) =>
        if c.atSeparator then (none, c) else scanPlainBreaks fuel (breaks ++ [ch]) c
      | none => (some breaks, c)

def scanPlainSpaces (c : Cursor) : List Char × Bool × Cursor :=
  let (spaces, c) := c.takeWhile (· = ' ')
  match c.lineBreak? with
  | some (ch, c) =>
    if c.atSeparator then ([], true, c)
    else
      match scanPlainBreaks (c.rest.length + 1) [] c with
      | (some breaks, c) => (foldedBreak ch breaks, true, c)
      | (none, c) => ([], true, c)
  | none => (spaces, false, c)

/-- The runs of a plain scalar; `newline` says whether a line ended right before the cursor. -/
def scanPlainRuns (flow : Bool) (column : Int) :
    Nat → List Char → List Char → Bool → Cursor → List Char × Bool × Cursor
  | 0, text, _, newline, c => (text, newline, c)
  | fuel + 1, text, spaces, newline, c =>
    let n := plainLength flow c.rest
    if c.peek = '#' ∨ n = 0 then (text, newline, c)
    else
      let text := text ++ spaces ++ c.rest.take n
      let (spaces, newline, c) := scanPlainSpaces (c.advance n)
      if spaces.isEmpty || c.peek = '#' || (!flow && c.column < column) then (text, newline, c)
      else scanPlainRuns flow column fuel text spaces newline c

def scanPlain (flow : Bool) (indent : Int) (c : Cursor) : Token × Bool × Cursor :=
  let (text, newline, c) := scanPlainRuns flow (indent + 1) (c.rest.length + 1) [] [] false c
  (.scalar true (text.map Char.toNat), newline, c)

end JobMatrix.Yaml
