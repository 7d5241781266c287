import JobMatrix.Number.Shortest
import JobMatrix.Text.Printable
import JobMatrix.Value.Basic

/-! Two texts of a value: the plain one, in which a text stands for itself, and the literal one, in
which a text is quoted. The parts of a list or mapping are always literal. -/

namespace JobMatrix

namespace Text

def hexDigit (n : Nat) : Char :=
  if n < 10 then Char.ofNat (48 + n) else Char.ofNat (87 + n)

/-- The last `count` hexadecimal digits of `n`. -/
def hex (count n : Nat) : List Char :=
  match count with
  | 0 => []
  | count + 1 => hex count (n / 16) ++ [hexDigit (n % 16)]

def escapeCode (n : Nat) : List Char :=
  if n < 0x100 then '\\' :: 'x' :: hex 2 n
  else if n < 0x10000 then '\\' :: 'u' :: hex 4 n
  else '\\' :: 'U' :: hex 8 n

/-- A character inside quotes of the kind `quote`. -/
def escapeChar (quote c : Char) : List Char :=
  if c = quote ∨ c = '\\' then ['\\', c]
  else if c = '\n' then ['\\', 'n']
  else if c = '\r' then ['\\', 'r']
  else if c = '\t' then ['\\', 't']
  else if isPrintable c then [c]
  else escapeCode c.toNat

/-- The kind of quote for a text: single, unless it holds single quotes and no double ones. -/
def quoteFor (s : List Char) : Char :=
  if s.contains '\'' && !s.contains '"' then '"' else '\''

def literal (s : String) : String :=
  let quote := quoteFor s.toList
  String.ofList (quote :: s.toList.flatMap (escapeChar quote) ++ [quote])

def literalPoints (points : List Nat) : String :=
  let quote := quoteFor (points.map Char.ofNat)
  let point (n : Nat) : List Char :=
    if isHalf n then escapeCode n else escapeChar quote (Char.ofNat n)
  String.ofList (quote :: points.flatMap point ++ [quote])

def padded (width n : Nat) : String :=
  let s := toString n
  String.ofList (List.replicate (width - s.length) '0') ++ s

end Text

namespace Date

def text (d : Date) : String :=
  Text.padded 4 d.year ++ "-" ++ Text.padded 2 d.month ++ "-" ++ Text.padded 2 d.day

def fields (d : Date) : String :=
  s!"{d.year}, {d.month}, {d.day}"

end Date

namespace Moment

def offsetText (minutes : Int) : String :=
  let n := minutes.natAbs
  (if minutes < 0 then "-" else "+") ++ Text.padded 2 (n / 60) ++ ":" ++ Text.padded 2 (n % 60)

def text (m : Moment) : String :=
  m.date.text ++ " " ++ Text.padded 2 m.hour ++ ":" ++ Text.padded 2 m.minute ++ ":" ++
    Text.padded 2 m.second ++
    (if m.microsecond = 0 then "" else "." ++ Text.padded 6 m.microsecond) ++
    (m.offset.map offsetText).getD ""

def spanLiteral (minutes : Int) : String :=
  let seconds := minutes * 60
  let days := seconds.fdiv 86400
  let rest := seconds.fmod 86400
  let parts := (if days = 0 then [] else [s!"days={days}"]) ++
    (if rest = 0 then [] else [s!"seconds={rest}"])
  "datetime.timedelta(" ++ (if parts.isEmpty then "0" else ", ".intercalate parts) ++ ")"

def zoneLiteral (minutes : Int) : String :=
  if minutes = 0 then "datetime.timezone.utc"
  else "datetime.timezone(" ++ spanLiteral minutes ++ ")"

def literal (m : Moment) : String :=
  s!"datetime.datetime({m.date.fields}, {m.hour}, {m.minute}" ++
    (if m.second = 0 ∧ m.microsecond = 0 then "" else s!", {m.second}") ++
    (if m.microsecond = 0 then "" else s!", {m.microsecond}") ++
    (match m.offset with
      | none => ""
      | some minutes => ", tzinfo=" ++ zoneLiteral minutes) ++ ")"

end Moment

namespace Scalar

def bytesLiteral (data : List UInt8) : String :=
  let quote := Text.quoteFor (data.map fun b => Char.ofNat b.toNat)
  let byte (b : UInt8) : List Char :=
    let c := Char.ofNat b.toNat
    if b < 0x80 then Text.escapeChar quote c else '\\' :: 'x' :: Text.hex 2 b.toNat
  String.ofList ('b' :: quote :: data.flatMap byte ++ [quote])

/-- The most decimal digits with which an integer is read or written. -/
def digitLimit : Nat := 4300

def isShowable : Scalar → Bool
  | int n => n.natAbs < 10 ^ digitLimit
  | _ => true

def literal : Scalar → String
  | null => "None"
  | bool b => if b then "True" else "False"
  | int n => toString n
  | float x => x.text
  | text s => Text.literal s
  | halves points => Text.literalPoints points
  | date d => "datetime.date(" ++ d.fields ++ ")"
  | moment m => m.literal
  | bytes data => bytesLiteral data

def display : Scalar → String
  | text s => s
  | halves points => String.ofList (Text.mended points)
  | date d => d.text
  | moment m => m.text
  | s => s.literal

end Scalar

namespace Value

def ellipsis : Value → String
  | list _ => "[...]"
  | tuple _ => "(...)"
  | map _ => "\x7b...\x7d"
  | _ => "..."

mutual

/-- The literal text of a value inside the labelled values `around`, each with what stands for it
inside itself. -/
def literalIn (around : Dict Nat String) : Value → String
  | scalar s => s.literal
  | list items => "[" ++ ", ".intercalate (literals around items) ++ "]"
  | tuple [] => "()"
  | tuple [item] => "(" ++ literalIn around item ++ ",)"
  | tuple items => "(" ++ ", ".intercalate (literals around items) ++ ")"
  | map entries => "\x7b" ++ ", ".intercalate (entryLiterals around entries) ++ "\x7d"
  | set [] => "set()"
  | set items => "\x7b" ++ ", ".intercalate (items.map Scalar.literal) ++ "\x7d"
  | shared label v =>
    match Dict.get? around label with
    | some mark => mark
    | none => literalIn ((label, v.ellipsis) :: around) v
  | again label => (Dict.get? around label).getD "..."

def literals (around : Dict Nat String) : List Value → List String
  | [] => []
  | v :: rest => literalIn around v :: literals around rest

def entryLiterals (around : Dict Nat String) : List (Scalar × Value) → List String
  | [] => []
  | (k, v) :: rest => (k.literal ++ ": " ++ literalIn around v) :: entryLiterals around rest

end

def literal (v : Value) : String := literalIn [] v

def display : Value → String
  | scalar s => s.display
  | shared _ (scalar s) => s.display
  | v => v.literal

mutual

/-- Whether the text of a value can be given: that of an integer can if it has few enough digits. -/
def isShowable : Value → Bool
  | scalar s => s.isShowable
  | list items => areShowable items
  | tuple items => areShowable items
  | map entries => entriesShowable entries
  | set items => items.all Scalar.isShowable
  | shared _ v => isShowable v
  | again _ => true

def areShowable : List Value → Bool
  | [] => true
  | v :: rest => isShowable v && areShowable rest

def entriesShowable : List (Scalar × Value) → Bool
  | [] => true
  | (k, v) :: rest => k.isShowable && isShowable v && entriesShowable rest

end

end Value

end JobMatrix
