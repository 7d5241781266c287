import JobMatrix.Value.Order
import JobMatrix.Yaml.Sheet

/-! Writing YAML documents: mappings and lists in blocks, keys in order, and empty collections in
brackets. A value that stands in several places is written where it stands first, under a name, and
elsewhere by its name. -/

namespace JobMatrix.Yaml

/-- Entries by their keys; where keys cannot be compared they stay as they are. -/
def ordered (entries : List (Scalar × Value)) : List (Scalar × Value) :=
  (Scalar.sortOn? (·.1) entries).getD entries

mutual

def sorted : Value → Value
  | .map entries => .map (ordered (sortedEntries entries))
  | .list items => .list (sortedItems items)
  | .tuple items => .tuple (sortedItems items)
  | .set items => .set ((ordered (items.map fun k => (k, .null))).map (·.1))
  | .scalar x => .scalar x
  | .shared label v => .shared label (sorted v)
  | .again label => .again label

def sortedItems : List Value → List Value
  | [] => []
  | v :: rest => sorted v :: sortedItems rest

def sortedEntries : List (Scalar × Value) → List (Scalar × Value)
  | [] => []
  | (k, v) :: rest => (k, sorted v) :: sortedEntries rest

end

def writeLimit : Nat := 327

/-- The labels met so far, and those met more than once in the order in which that came up. -/
structure Census where
  met : List Nat := []
  repeated : List Nat := []

def Census.note (c : Census) (label : Nat) : Census :=
  if !c.met.contains label then { c with met := label :: c.met }
  else if c.repeated.contains label then c
  else { c with repeated := c.repeated ++ [label] }

mutual

def census : Value → Census → Census
  | .map entries, c => censusEntries entries c
  | .list items, c => censusItems items c
  | .tuple items, c => censusItems items c
  | .shared label v, c => if c.met.contains label then c.note label else census v (c.note label)
  | .again label, c => c.note label
  | _, c => c

def censusItems : List Value → Census → Census
  | [], c => c
  | v :: rest, c => censusItems rest (census v c)

def censusEntries : List (Scalar × Value) → Census → Census
  | [], c => c
  | (_, v) :: rest, c => censusEntries rest (census v c)

end

def anchorOf (repeated : List Nat) (label : Nat) : String :=
  "id" ++ Text.padded 3 (repeated.idxOf label + 1)

def floatText (x : Double) : String :=
  match x with
  | .undefined => ".nan"
  | .infinite negative => if negative then "-.inf" else ".inf"
  | x =>
    let s := x.text
    if s.toList.contains 'e' && !s.toList.contains '.' then
      ".0e".intercalate (s.splitOn "e")
    else s

def sixtyFourth (n : Nat) : Char :=
  ("ABCDEFGHIJKLMNOPQRSTUVWXYZabcdefghijklmnopqrstuvwxyz0123456789+/".toList)[n]?.getD 'A'

def toBase64 : List UInt8 → List Char
  | a :: b :: c :: rest =>
    let n := (a.toNat * 256 + b.toNat) * 256 + c.toNat
    [n / 262144, n / 4096 % 64, n / 64 % 64, n % 64].map sixtyFourth ++ toBase64 rest
  | [a, b] =>
    let n := (a.toNat * 256 + b.toNat) * 4
    [n / 4096, n / 64 % 64, n % 64].map sixtyFourth ++ ['=']
  | [a] => [a.toNat / 4, a.toNat % 4 * 16].map sixtyFourth ++ ['=', '=']
  | [] => []

def scalarForm : Scalar → String × String
  | .null => ("null", "!!null")
  | .bool b => (if b then "true" else "false", "!!bool")
  | .int n => (toString n, "!!int")
  | .float x => (floatText x, "!!float")
  | .text s => (s, "!!str")
  | .halves points => (String.ofList (points.map Char.ofNat), "!!str")
  | .date d => (d.text, "!!timestamp")
  | .moment m => (m.text, "!!timestamp")
  | .bytes data => (String.ofList (toBase64 data), "!!binary")

def readsBack : Scalar → Bool
  | .text s => Tag.ofPlain s == .text
  | _ => true

/-- The length up to which a key stands on one line with its value, its tag counted. -/
def keyLimit : Nat := 128

def isSimpleKey (k : Scalar) : Bool :=
  let (text, tag) := scalarForm k
  tag != "!!binary" && !text.isEmpty && !text.toList.any isBreakChar && tag.length + text.length < keyLimit

def chunks (fuel size : Nat) (s : List Char) : List (List Char) :=
  match fuel with
  | 0 => []
  | fuel + 1 => if s.isEmpty then [] else s.take size :: chunks fuel size (s.drop size)

def inner (outer : Option Nat) : Nat := outer.elim 2 (· + 2)

def writeValue (outer : Option Nat) (key : Bool) (x : Scalar) (s : Sheet) : Sheet :=
  match x with
  | .bytes data =>
    let digits := toBase64 data
    let s := s.indicator "!!binary" true
    if digits.isEmpty || key then writeDouble (inner outer) (!key) (digits.map Char.toNat) s
    else
      let s := s.indicator "|" true
      (chunks digits.length 76 digits).foldl
        (fun s line =>
          { (s.indentTo (inner outer)).put line with blank := false, fresh := false }) s
  | .halves points => writeDouble (inner outer) (!key) points s
  | x => writeScalar (inner outer) (readsBack x) key (scalarForm x).1.toList s

def emptyBrackets (opening closing : String) (s : Sheet) : Sheet :=
  (s.indicator opening true true).indicator closing false

def block (outer : Option Nat) : Nat := outer.elim 0 (· + 2)

/-- The depth of the items of a list: that of the key whose value it is, if nothing stands between
the key and the items. -/
def itemDepth (outer : Option Nat) (inMapping : Bool) (s : Sheet) : Nat :=
  if inMapping && !s.fresh then outer.getD 0 else block outer

/-- Writes a key and the colon after it: on one line, or marked as a key on a line of its own. -/
def writeKey (depth : Nat) (k : Scalar) (s : Sheet) : Sheet :=
  if isSimpleKey k then (writeValue (some depth) true k s).indicator ":" false
  else
    let s := writeValue (some depth) false k (s.indicator "?" true false true)
    (s.indentTo depth).indicator ":" true false true

def writeKeys (depth : Nat) : List Scalar → Sheet → Sheet
  | [], s => s
  | k :: rest, s =>
    let s := writeKey depth k (s.indentTo depth)
    writeKeys depth rest (writeValue (some depth) false .null s)

mutual

/-- Writes a value inside something at a depth, and keeps the labels that have been written. The
items of a list that is the value of a key stand no deeper than the key. -/
def writeNode (repeated : List Nat) (outer : Option Nat) (inMapping : Bool) :
    Value → Sheet × List Nat → Sheet × List Nat
  | .scalar x, (s, done) => (writeValue outer false x s, done)
  | .list [], (s, done) => (emptyBrackets "[" "]" s, done)
  | .list (v :: rest), (s, done) =>
    writeItems repeated (itemDepth outer inMapping s) (v :: rest) (s, done)
  | .tuple [], (s, done) => (emptyBrackets "[" "]" (s.indicator "!!python/tuple" true), done)
  | .tuple (v :: rest), (s, done) =>
    let s := s.indicator "!!python/tuple" true
    writeItems repeated (itemDepth outer inMapping s) (v :: rest) (s, done)
  | .map [], (s, done) => (emptyBrackets "\x7b" "\x7d" s, done)
  | .map (e :: rest), (s, done) => writeEntries repeated (block outer) (e :: rest) (s, done)
  | .set [], (s, done) => (emptyBrackets "\x7b" "\x7d" (s.indicator "!!set" true), done)
  | .set (k :: rest), (s, done) =>
    (writeKeys (block outer) (k :: rest) (s.indicator "!!set" true), done)
  | .shared label v, (s, done) =>
    if done.contains label then (s.indicator ("*" ++ anchorOf repeated label) true, done)
    else if repeated.contains label then
      writeNode repeated outer inMapping v
        (s.indicator ("&" ++ anchorOf repeated label) true, label :: done)
    else writeNode repeated outer inMapping v (s, label :: done)
  | .again label, (s, done) => (s.indicator ("*" ++ anchorOf repeated label) true, done)

def writeItems (repeated : List Nat) (depth : Nat) :
    List Value → Sheet × List Nat → Sheet × List Nat
  | [], state => state
  | v :: rest, (s, done) =>
    let s := (s.indentTo depth).indicator "-" true false true
    writeItems repeated depth rest (writeNode repeated (some depth) false v (s, done))

def writeEntries (repeated : List Nat) (depth : Nat) :
    List (Scalar × Value) → Sheet × List Nat → Sheet × List Nat
  | [], state => state
  | (k, v) :: rest, (s, done) =>
    let s := writeKey depth k (s.indentTo depth)
    writeEntries repeated depth rest (writeNode repeated (some depth) true v (s, done))

end

def write (v : Value) : String :=
  let v := sorted v
  let repeated := (census v {}).repeated
  String.ofList ((writeNode repeated none false v ({}, [])).1.indentTo 0).text.reverse

end JobMatrix.Yaml
