import JobMatrix.Number.Read
import JobMatrix.Value.Literal

/-! Values as JSON text. The writer keeps the order of a mapping and escapes everything outside
printable ASCII; the reader takes the last value of a repeated key at the key's first position. -/

namespace JobMatrix.Json

def unitEscape (n : Nat) : List Char := '\\' :: 'u' :: Text.hex 4 n

def escapeChar (c : Char) : List Char :=
  let n := c.toNat
  if c = '"' ∨ c = '\\' then ['\\', c]
  else if c = '\n' then ['\\', 'n']
  else if c = '\r' then ['\\', 'r']
  else if c = '\t' then ['\\', 't']
  else if n = 8 then ['\\', 'b']
  else if n = 12 then ['\\', 'f']
  else if 0x20 ≤ n ∧ n < 0x7f then [c]
  else if n < 0x10000 then unitEscape n
  else
    let r := n - 0x10000
    unitEscape (0xd800 + r / 0x400) ++ unitEscape (0xdc00 + r % 0x400)

def quoted (s : String) : String :=
  String.ofList ('"' :: s.toList.flatMap escapeChar ++ ['"'])

def quotedPoints (points : List Nat) : String :=
  let point (n : Nat) : List Char :=
    if Text.isHalf n then unitEscape n else escapeChar (Char.ofNat n)
  String.ofList ('"' :: points.flatMap point ++ ['"'])

def number (x : Double) : String :=
  match x with
  | .undefined => "NaN"
  | .infinite negative => if negative then "-Infinity" else "Infinity"
  | x => x.text

/-- Why a value has no JSON text: a key or a part of a kind that JSON does not have, an integer with
too many digits, a value inside itself, or nesting that is too deep. -/
inductive Obstacle where
  | key (kind : String)
  | part (kind : String)
  | digits
  | loop
  | depth
deriving DecidableEq, Repr

def Obstacle.text : Obstacle → String
  | key kind => "keys must be str, int, float, bool or None, not " ++ kind
  | part kind => "Object of type " ++ kind ++ " is not JSON serializable"
  | digits =>
    "Exceeds the limit (4300 digits) for integer string conversion; " ++
      "use sys.set_int_max_str_digits() to increase the limit"
  | loop => "Circular reference detected"
  | depth => "maximum recursion depth exceeded while encoding a JSON object"

/-- The JSON text of a scalar; dates and bytes have none. -/
def scalar : Scalar → Except Obstacle String
  | .null => .ok "null"
  | .bool b => .ok (if b then "true" else "false")
  | .int n => if (Scalar.int n).isShowable then .ok (toString n) else .error .digits
  | .float x => .ok (number x)
  | .text s => .ok (quoted s)
  | .halves points => .ok (quotedPoints points)
  | .date _ => .error (.part "date")
  | .moment _ => .error (.part "datetime")
  | .bytes _ => .error (.part "bytes")

def key : Scalar → Except Obstacle String
  | .text s => .ok (quoted s)
  | .halves points => .ok (quotedPoints points)
  | .date _ => .error (.key "datetime.date")
  | .moment _ => .error (.key "datetime.datetime")
  | .bytes _ => .error (.key "bytes")
  | s => (scalar s).map quoted

/-- How the parts of a list or mapping are set apart. -/
inductive Layout where
  | compact
  | indented (step : Nat)

/-- The text between two parts at nesting depth `depth`, and the colon after a key. -/
def Layout.newline : Layout → Nat → String
  | compact, _ => ""
  | indented step, depth => "\n" ++ String.ofList (List.replicate (step * depth) ' ')

def Layout.colon : Layout → String
  | compact => ":"
  | indented _ => ": "

def Layout.enclose (l : Layout) (depth : Nat) (opening closing : String) (parts : List String) :
    String :=
  if parts.isEmpty then opening ++ closing
  else
    opening ++ l.newline (depth + 1) ++ ("," ++ l.newline (depth + 1)).intercalate parts ++
      l.newline depth ++ closing

/-- The depth of nesting up to which values are written and read. -/
def nestingLimit : Nat := 990

mutual

/-- The JSON text of a value inside `depth` others, of at most `limit` in all. Of several obstacles
the first one in the order of the text is met. -/
def writeAt (l : Layout) (limit depth : Nat) : Value → Except Obstacle String
  | .scalar s => scalar s
  | .list items =>
    if depth < limit then (writeItems l limit (depth + 1) items).map (l.enclose depth "[" "]")
    else .error .depth
  | .tuple items =>
    if depth < limit then (writeItems l limit (depth + 1) items).map (l.enclose depth "[" "]")
    else .error .depth
  | .map entries =>
    if depth < limit then
      (writeEntries l limit (depth + 1) entries).map (l.enclose depth "\x7b" "\x7d")
    else .error .depth
  | .set _ => .error (.part "set")
  | .shared _ v => writeAt l limit depth v
  | .again _ => .error .loop

def writeItems (l : Layout) (limit depth : Nat) : List Value → Except Obstacle (List String)
  | [] => .ok []
  | v :: rest => do
    let s ← writeAt l limit depth v
    return s :: (← writeItems l limit depth rest)

def writeEntries (l : Layout) (limit depth : Nat) :
    List (Scalar × Value) → Except Obstacle (List String)
  | [] => .ok []
  | (k, v) :: rest => do
    let name ← key k
    let s ← writeAt l limit depth v
    return (name ++ l.colon ++ s) :: (← writeEntries l limit depth rest)

end

def write (l : Layout) (v : Value) (limit : Nat := nestingLimit) : Except Obstacle String :=
  writeAt l limit 0 v

def isSpace (c : Char) : Bool :=
  c = ' ' || c = '\t' || c = '\n' || c = '\r'

def skipSpace (s : List Char) : List Char := s.dropWhile isSpace

def hexValue? (c : Char) : Option Nat :=
  if c.isDigit then some (c.toNat - 48)
  else if 'a' ≤ c ∧ c ≤ 'f' then some (c.toNat - 87)
  else if 'A' ≤ c ∧ c ≤ 'F' then some (c.toNat - 55)
  else none

def unit? (a b c d : Char) : Option Nat :=
  match hexValue? a, hexValue? b, hexValue? c, hexValue? d with
  | some a, some b, some c, some d => some (((a * 16 + b) * 16 + c) * 16 + d)
  | _, _, _, _ => none

def letterEscape? (c : Char) : Option Char :=
  if c = '"' ∨ c = '\\' ∨ c = '/' then some c
  else if c = 'n' then some '\n'
  else if c = 'r' then some '\r'
  else if c = 't' then some '\t'
  else if c = 'b' then some (Char.ofNat 8)
  else if c = 'f' then some (Char.ofNat 12)
  else none

/-- The rest of a string after its opening quote; `acc` holds the code points that were read, last
first. Two escaped halves in a row are one character, and other halves stand alone. -/
def readString? (acc : List Nat) : List Char → Option (Scalar × List Char)
  | [] => none
  | '"' :: r => some (.ofPoints acc.reverse, r)
  | '\\' :: 'u' :: a :: b :: c :: d :: '\\' :: 'u' :: e :: f :: g :: h :: r =>
    match unit? a b c d, unit? e f g h with
    | some hi, some lo =>
      if Text.isFirstHalf hi && Text.isSecondHalf lo then
        readString? (Text.joined hi lo :: acc) r
      else readString? (hi :: acc) ('\\' :: 'u' :: e :: f :: g :: h :: r)
    | some n, none => readString? (n :: acc) ('\\' :: 'u' :: e :: f :: g :: h :: r)
    | none, _ => none
  | '\\' :: 'u' :: a :: b :: c :: d :: r =>
    match unit? a b c d with
    | some n => readString? (n :: acc) r
    | none => none
  | '\\' :: c :: r =>
    match letterEscape? c with
    | some e => readString? (e.toNat :: acc) r
    | none => none
  | c :: r => if c.toNat < 0x20 ∨ c = '\\' then none else readString? (c.toNat :: acc) r

def readWhole? : List Char → Option (List Char × List Char)
  | '0' :: r => some (['0'], r)
  | s =>
    let ds := s.takeWhile Char.isDigit
    if ds.isEmpty then none else some (ds, s.dropWhile Char.isDigit)

def readFraction : List Char → List Char × List Char
  | '.' :: r =>
    let ds := r.takeWhile Char.isDigit
    if ds.isEmpty then ([], '.' :: r) else (ds, r.dropWhile Char.isDigit)
  | s => ([], s)

def readExponent (s : List Char) : Option Int × List Char :=
  match s with
  | c :: r =>
    if c = 'e' ∨ c = 'E' then
      let (down, t) := Number.signed r
      let ds := t.takeWhile Char.isDigit
      if ds.isEmpty then (none, s)
      else
        let n : Int := Number.natOfDigits ds
        (some (if down then -n else n), t.dropWhile Char.isDigit)
    else (none, s)
  | [] => (none, [])

/-- Why a text is not read: it is no JSON, an integer has too many digits, or the nesting is too
deep. -/
inductive ReadError where
  | malformed
  | tooManyDigits (count : Nat)
  | tooDeep
deriving DecidableEq, Repr

/-- What reading gives: a result and the rest of the text. -/
abbrev Reading (α : Type) := Except ReadError (α × List Char)

def readNumber? (negative : Bool) (s : List Char) : Option (Reading Value) :=
  match readWhole? s with
  | none => none
  | some (whole, r) =>
    let (fraction, r) := readFraction r
    let (exponent, r) := readExponent r
    let digits := Number.natOfDigits (whole ++ fraction)
    if fraction.isEmpty && exponent.isNone then
      if Scalar.digitLimit < whole.length then some (.error (.tooManyDigits whole.length))
      else some (.ok (.int (if negative then -(digits : Int) else digits), r))
    else some (.ok (.float (.ofDecimal negative digits (exponent.getD 0 - fraction.length)), r))

def after? (word : List Char) (s : List Char) : Option (List Char) :=
  if word.isPrefixOf s then some (s.drop word.length) else none

def words : List (String × Value) :=
  [("null", .null), ("true", .bool true), ("false", .bool false), ("NaN", .float .undefined),
   ("Infinity", .float (.infinite false)), ("-Infinity", .float (.infinite true))]

def readWord (s : List Char) : Reading Value :=
  match words.findSome? fun w => (after? w.1.toList s).map fun r => (w.2, r) with
  | some found => .ok found
  | none => .error .malformed

def readText (s : List Char) : Reading Scalar :=
  match readString? [] s with
  | some found => .ok found
  | none => .error .malformed

mutual

/-- A value at the start of a text, and the rest; `fuel` bounds the length, and `room` is what is
left of the nesting. -/
def readValue : Nat → Nat → List Char → Reading Value
  | 0, _, _ => .error .malformed
  | fuel + 1, room, s =>
    match skipSpace s with
    | '"' :: r => (readText r).map fun (t, r) => (.scalar t, r)
    | '[' :: r =>
      match room with
      | 0 => .error .tooDeep
      | room + 1 =>
        match skipSpace r with
        | ']' :: r => .ok (.list [], r)
        | r => (readItems fuel room [] r).map fun (items, r) => (.list items, r)
    | '\x7b' :: r =>
      match room with
      | 0 => .error .tooDeep
      | room + 1 =>
        match skipSpace r with
        | '\x7d' :: r => .ok (.map [], r)
        | r => (readEntries fuel room [] r).map fun (entries, r) => (.map entries, r)
    | '-' :: r => (readNumber? true r).getD (readWord ('-' :: r))
    | s => (readNumber? false s).getD (readWord s)

/-- The items of a list up to its closing bracket; `acc` holds the items before, last first. -/
def readItems : Nat → Nat → List Value → List Char → Reading (List Value)
  | 0, _, _, _ => .error .malformed
  | fuel + 1, room, acc, s =>
    match readValue fuel room s with
    | .error e => .error e
    | .ok (v, r) =>
      match skipSpace r with
      | ',' :: r => readItems fuel room (v :: acc) r
      | ']' :: r => .ok ((v :: acc).reverse, r)
      | _ => .error .malformed

/-- The entries of a mapping up to its closing brace, after the entries `acc`. -/
def readEntries : Nat → Nat → List (Scalar × Value) → List Char →
    Reading (List (Scalar × Value))
  | 0, _, _, _ => .error .malformed
  | fuel + 1, room, acc, s =>
    match skipSpace s with
    | '"' :: r =>
      match readString? [] r with
      | none => .error .malformed
      | some (name, r) =>
        match skipSpace r with
        | ':' :: r =>
          match readValue fuel room r with
          | .error e => .error e
          | .ok (v, r) =>
            let acc := Dict.put acc name v
            match skipSpace r with
            | ',' :: r => readEntries fuel room acc r
            | '\x7d' :: r => .ok (acc, r)
            | _ => .error .malformed
        | _ => .error .malformed
    | _ => .error .malformed

end

/-- The value of a JSON text with nothing but white space around it, if there is `room` for its
nesting. -/
def read (s : String) (room : Nat := nestingLimit) : Except ReadError Value :=
  let cs := s.toList
  match readValue (cs.length + 1) room cs with
  | .error e => .error e
  | .ok (v, r) => if (skipSpace r).isEmpty then .ok v else .error .malformed

end JobMatrix.Json
