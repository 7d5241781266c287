import JobMatrix.Text.Utf8
import JobMatrix.Value.Literal
import JobMatrix.Yaml.Tag

/-! Writing YAML scalars. A sheet is the text written so far with what has to be known of its last
line; scalars are plain where they read back as they are, else in single quotes, else in double
quotes, and are folded beyond the eightieth column. -/

namespace JobMatrix.Yaml

/-- The text so far. `blank` holds when it ends in a blank or an indicator that needs none after it,
`fresh` when the last line has indentation and indicators only. -/
structure Sheet where
  text : List Char := []
  column : Nat := 0
  blank : Bool := true
  fresh : Bool := true

namespace Sheet

def width : Nat := 80

/-- Writes characters; the text is kept in reverse. -/
def put (s : Sheet) (cs : List Char) : Sheet :=
  { s with text := cs.reverse ++ s.text, column := s.column + cs.length }

def lineBreak (s : Sheet) (c : Char := '\n') : Sheet :=
  { text := c :: s.text, column := 0, blank := true, fresh := true }

/-- Goes to the start of a line at a depth, on the present line if nothing stands there yet. -/
def indentTo (s : Sheet) (depth : Nat) : Sheet :=
  let s := if !s.fresh || depth < s.column || (s.column == depth && !s.blank) then s.lineBreak
    else s
  if s.column < depth then
    { s.put (List.replicate (depth - s.column) ' ') with blank := true }
  else s

/-- Writes an indicator, with a blank before it if it is `apart`. -/
def indicator (s : Sheet) (mark : String) (apart : Bool) (blank fresh : Bool := false) : Sheet :=
  let cs := if s.blank || !apart then mark.toList else ' ' :: mark.toList
  { s.put cs with blank, fresh := s.fresh && fresh }

end Sheet

def isBreakChar (c : Char) : Bool :=
  c == '\n' || c == '\x85' || c == '\u2028' || c == '\u2029'

def endsWord (c : Char) : Bool :=
  c == '\x00' || c == ' ' || c == '\t' || c == '\r' || isBreakChar c

structure Features where
  indicators : Bool := false
  breaks : Bool := false
  special : Bool := false
  breakThenSpace : Bool := false
  spaceThenBreak : Bool := false

/-- Whether a character at the start of a text, before `next`, has a meaning of its own. -/
def startsMarkup (c : Char) (next : Option Char) : Bool :=
  "#,[]\x7b\x7d&*!|>'\"%@\x60".toList.contains c ||
    ((c == '?' || c == ':' || c == '-') && next.elim true endsWord)

/-- Whether a character between `previous` and `next` has a meaning of its own. -/
def isMarkup (previous c : Char) (next : Option Char) : Bool :=
  (c == ':' && next.elim true endsWord) || (c == '#' && endsWord previous)

def isOrdinary (c : Char) : Bool := c == '\n' || (' ' ≤ c && c ≤ '~')

/-- The features of the characters after `previous`. -/
def featuresAfter (f : Features) (previous : Char) : List Char → Features
  | [] => f
  | c :: rest =>
    featuresAfter
      { indicators := f.indicators || isMarkup previous c rest.head?
        breaks := f.breaks || isBreakChar c
        special := f.special || !isOrdinary c
        breakThenSpace := f.breakThenSpace || (isBreakChar previous && c == ' ')
        spaceThenBreak := f.spaceThenBreak || (previous == ' ' && isBreakChar c) }
      c rest

def features : List Char → Features
  | [] => {}
  | c :: rest =>
    let document := ['-', '-', '-'].isPrefixOf (c :: rest) || ['.', '.', '.'].isPrefixOf (c :: rest)
    featuresAfter
      { indicators := document || startsMarkup c rest.head?
        breaks := isBreakChar c
        special := !isOrdinary c } c rest

inductive Style where
  | plain
  | single
  | double
deriving DecidableEq

def edgeBlank (c : Option Char) : Bool := c.elim false fun c => c == ' ' || isBreakChar c

/-- The style of a scalar whose plain form reads back under its own tag iff `reads`; a key on one
line with its value is never folded. -/
def styleOf (text : List Char) (reads key : Bool) : Style :=
  let f := features text
  let plainable := !(edgeBlank text.head? || edgeBlank text.getLast? || f.breakThenSpace ||
    f.spaceThenBreak || f.special || f.breaks || f.indicators)
  if reads && plainable && !(key && text.isEmpty) then .plain
  else if !(f.breakThenSpace || f.spaceThenBreak || f.special) && !(key && f.breaks) then .single
  else .double

/-- Writes words with the blanks between them; `space` is a run of blanks not yet written. -/
def plainFrom (depth : Nat) (split : Bool) (space : List Char) (s : Sheet) : List Char → Sheet
  | [] => s.put space
  | c :: rest =>
    if c == ' ' then plainFrom depth split (c :: space) s rest
    else if space.isEmpty then plainFrom depth split [] (s.put [c]) rest
    else
      let s := if space.length == 1 && Sheet.width < s.column && split then
          { s.indentTo depth with blank := false, fresh := false }
        else s.put space
      plainFrom depth split [] (s.put [c]) rest

def writePlain (depth : Nat) (split : Bool) (text : List Char) (s : Sheet) : Sheet :=
  if text.isEmpty then s
  else
    let s := if s.blank then s else s.put [' ']
    plainFrom depth split [] { s with blank := false, fresh := false } text

def writeBreaks (depth : Nat) (run : List Char) (s : Sheet) : Sheet :=
  let s := if run.head? == some '\n' then s.lineBreak else s
  (run.foldl (fun s c => s.lineBreak c) s).indentTo depth

/-- Writes what stands between single quotes; `run` holds blanks or breaks not yet written, and
`first` tells whether they start the text. -/
def singleFrom (depth : Nat) (split first : Bool) (run : List Char) (s : Sheet) :
    List Char → Sheet
  | [] =>
    if (run.head?.elim false isBreakChar) then writeBreaks depth run s else s.put run
  | c :: rest =>
    let spaces := run.head? == some ' '
    let breaks := run.head?.elim false isBreakChar
    if (c == ' ' && !breaks) || (isBreakChar c && !spaces) then
      singleFrom depth split first (run ++ [c]) s rest
    else
      let s :=
        if breaks then writeBreaks depth run s
        else if run.length == 1 && Sheet.width < s.column && split && !first then s.indentTo depth
        else s.put run
      if c == ' ' || isBreakChar c then singleFrom depth split false [c] s rest
      else singleFrom depth split false [] (s.put (if c == '\'' then ['\'', '\''] else [c])) rest

def writeSingle (depth : Nat) (split : Bool) (text : List Char) (s : Sheet) : Sheet :=
  (singleFrom depth split true [] (s.indicator "'" true) text).indicator "'" false

def escapeLetters : List (Char × Char) :=
  [('\x00', '0'), ('\x07', 'a'), ('\x08', 'b'), ('\t', 't'), ('\n', 'n'), ('\x0b', 'v'),
   ('\x0c', 'f'), ('\r', 'r'), ('\x1b', 'e'), ('"', '"'), ('\\', '\\'), ('\x85', 'N'),
   ('\xa0', '_'), ('\u2028', 'L'), ('\u2029', 'P')]

def escape (n : Nat) : List Char :=
  match if Text.isHalf n then none else Dict.get? escapeLetters (Char.ofNat n) with
  | some letter => ['\\', letter]
  | none =>
    let hex (count : Nat) : List Char := (Text.hex count n).map Char.toUpper
    if n ≤ 0xFF then '\\' :: 'x' :: hex 2
    else if n ≤ 0xFFFF then '\\' :: 'u' :: hex 4
    else '\\' :: 'U' :: hex 8

/-- Writes code points between double quotes. `pending` are characters not yet written, in reverse;
`start` tells whether the next one is the first. -/
def doubleFrom (depth : Nat) (split start : Bool) (pending : List Char) (s : Sheet) :
    List Nat → Sheet
  | [] => s.put pending.reverse
  | n :: rest =>
    let c := Char.ofNat n
    let plain := ' ' ≤ c && c ≤ '~' && c != '"' && c != '\\'
    let (pending, s) := if plain then (pending, s) else ([], (s.put pending.reverse).put (escape n))
    let foldable := !start && !rest.isEmpty && (c == ' ' || !plain || pending.isEmpty)
    let reach := if plain then s.column + pending.length else s.column - 1
    if foldable && Sheet.width < reach && split then
      let s := (s.put pending.reverse).put ['\\']
      let s := { s.indentTo depth with blank := false, fresh := false }
      let next := if plain then some n else rest.head?
      let s := if next == some 32 then s.put ['\\'] else s
      doubleFrom depth split false (if plain then [c] else []) s rest
    else doubleFrom depth split false (if plain then c :: pending else []) s rest

def writeDouble (depth : Nat) (split : Bool) (text : List Nat) (s : Sheet) : Sheet :=
  (doubleFrom depth split true [] (s.indicator "\"" true) text).indicator "\"" false

/-- Writes a scalar, folded to `depth` unless it is a key. -/
def writeScalar (depth : Nat) (reads key : Bool) (text : List Char) (s : Sheet) : Sheet :=
  match styleOf text reads key with
  | .plain => writePlain depth (!key) text s
  | .single => writeSingle depth (!key) text s
  | .double => writeDouble depth (!key) (text.map Char.toNat) s

end JobMatrix.Yaml
