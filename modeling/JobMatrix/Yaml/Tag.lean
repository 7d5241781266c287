import JobMatrix.Text.Blank
import JobMatrix.Value.Basic

/-! Tags, which say what a node stands for, and the tags of plain scalars, which follow from their
text. -/

namespace JobMatrix.Yaml

inductive Tag where
  | null
  | bool
  | int
  | float
  | text
  | binary
  | timestamp
  | omap
  | pairs
  | set
  | sequence
  | mapping
  | merge
  | value
  | other (name : String)
deriving DecidableEq, Repr, Inhabited

def standardLead : String := "tag:yaml.org,2002:"

def Tag.standard : List (String × Tag) :=
  [("null", .null), ("bool", .bool), ("int", .int), ("float", .float), ("str", .text),
   ("binary", .binary), ("timestamp", .timestamp), ("omap", .omap), ("pairs", .pairs),
   ("set", .set), ("seq", .sequence), ("map", .mapping), ("merge", .merge), ("value", .value)]

def Tag.ofName (name : String) : Tag :=
  match standard.find? fun e => standardLead ++ e.1 = name with
  | some e => e.2
  | none => .other name

def truthWords : List (String × Bool) :=
  [("yes", true), ("no", false), ("true", true), ("false", false), ("on", true), ("off", false)]

def casings (word : String) : List String :=
  match word.toList with
  | [] => [word]
  | c :: rest =>
    [word, String.ofList (c.toUpper :: rest), String.ofList ((c :: rest).map Char.toUpper)]

def isTruth (s : String) : Bool :=
  truthWords.any fun w => (casings w.1).contains s

def isNull (s : String) : Bool :=
  s = "" || s = "~" || (casings "null").contains s

def unsigned : List Char → List Char
  | '-' :: r => r
  | '+' :: r => r
  | r => r

def isDigitOrLine (c : Char) : Bool := c.isDigit || c = '_'

def isSixtieth : List Char → Bool
  | [a] => a.isDigit
  | [a, b] => '0' ≤ a && a ≤ '5' && b.isDigit
  | _ => false

def colonParts (s : List Char) : List (List Char) := s.splitOn ':'

def isIntText (s : List Char) : Bool :=
  match unsigned s with
  | '0' :: 'b' :: r => !r.isEmpty && r.all fun c => c = '0' || c = '1' || c = '_'
  | '0' :: 'x' :: r =>
    !r.isEmpty && r.all fun c =>
      c.isDigit || c = '_' || ('a' ≤ c && c ≤ 'f') || ('A' ≤ c && c ≤ 'F')
  | '0' :: r => r.all fun c => ('0' ≤ c && c ≤ '7') || c = '_'
  | c :: r =>
    '1' ≤ c && c ≤ '9' &&
      match colonParts r with
      | first :: rest => first.all isDigitOrLine && rest.all isSixtieth
      | [] => false
  | [] => false

def isExponent : List Char → Bool
  | [] => true
  | e :: sign :: r =>
    (e = 'e' || e = 'E') && (sign = '-' || sign = '+') && !r.isEmpty && r.all Char.isDigit
  | _ => false

def isFraction (s : List Char) : Bool := isExponent (s.dropWhile isDigitOrLine)

/-- Whole digits, perhaps to the base sixty, before a point; only a plain number may have an
exponent. -/
def isPointed (s : List Char) : Bool :=
  match s.head? with
  | some c =>
    c.isDigit &&
      (let whole := s.takeWhile isDigitOrLine
       match s.drop whole.length with
       | '.' :: r => isFraction r
       | ':' :: r =>
         let head := r.takeWhile (· != '.')
         match r.drop head.length with
         | '.' :: fraction =>
           (colonParts head).all isSixtieth && fraction.all isDigitOrLine
         | _ => false
       | _ => false)
  | none => false

def isFloatText (s : List Char) : Bool :=
  let infinite (r : List Char) : Bool := (casings "inf").contains (String.ofList r)
  let undefined (r : List Char) : Bool := ["nan", "NaN", "NAN"].contains (String.ofList r)
  match s with
  | '.' :: d :: r => (d.isDigit && isFraction r) || infinite (d :: r) || undefined (d :: r)
  | '-' :: '.' :: r => infinite r
  | '+' :: '.' :: r => infinite r
  | s => isPointed (unsigned s)

/-- The parts of a timestamp: the date, and the time with its fraction and zone. -/
structure Stamp where
  year : Nat
  month : Nat
  day : Nat
  time : Option (Nat × Nat × Nat) := none
  fraction : List Char := []
  /-- The sign and the hours and minutes of a zone; none for universal time itself. -/
  zone : Option (Option (Bool × Nat × Nat)) := none

/-- Between `least` and `most` digits at the start of a text, as a number, and the rest. -/
def digits? (least most : Nat) (s : List Char) : Option (Nat × List Char) :=
  let ds := (s.take most).takeWhile Char.isDigit
  if ds.length < least then none
  else some (ds.foldl (fun n c => 10 * n + (c.toNat - 48)) 0, s.drop ds.length)

def isGapChar (c : Char) : Bool := c = ' ' || c = '\t'

def zone? (s : List Char) : Option (Option (Option (Bool × Nat × Nat))) :=
  if s.isEmpty then some none
  else
    match s.dropWhile isGapChar with
    | ['Z'] => some (some none)
    | sign :: r =>
      if sign = '-' ∨ sign = '+' then
        match digits? 1 2 r with
        | some (hours, []) => some (some (some (sign = '-', hours, 0)))
        | some (hours, ':' :: r) =>
          match digits? 2 2 r with
          | some (minutes, []) => some (some (some (sign = '-', hours, minutes)))
          | _ => none
        | _ => none
      else none
    | [] => none

def timeOfDay? (date : Stamp) (s : List Char) : Option Stamp := do
  let (hour, s) ← digits? 1 2 s
  let s ← if s.head? = some ':' then some (s.drop 1) else none
  let (minute, s) ← digits? 2 2 s
  let s ← if s.head? = some ':' then some (s.drop 1) else none
  let (second, s) ← digits? 2 2 s
  let (fraction, s) := match s with
    | '.' :: r => (r.takeWhile Char.isDigit, r.dropWhile Char.isDigit)
    | s => ([], s)
  let zone ← zone? s
  return { date with time := some (hour, minute, second), fraction, zone }

def stamp? (s : List Char) : Option Stamp := do
  let (year, s) ← digits? 4 4 s
  let s ← if s.head? = some '-' then some (s.drop 1) else none
  let (month, s) ← digits? 1 2 s
  let s ← if s.head? = some '-' then some (s.drop 1) else none
  let (day, s) ← digits? 1 2 s
  let date : Stamp := { year, month, day }
  match s with
  | [] => some date
  | c :: r =>
    if c = 'T' ∨ c = 't' then timeOfDay? date r
    else if isGapChar c then timeOfDay? date (r.dropWhile isGapChar)
    else none

/-- Texts that read as timestamps: with a time, or with two digits for the month and the day. -/
def isStampText (s : List Char) : Bool :=
  match stamp? s with
  | some stamp => stamp.time.isSome || s.length == 10
  | none => false

def withoutBreak (s : String) : String :=
  if s.toList.getLast? = some '\n' then String.ofList s.toList.dropLast else s

def Tag.ofPlain (given : String) : Tag :=
  let s := withoutBreak given
  let cs := s.toList
  if given = "\n" then .text
  else if isTruth s then .bool
  else if isFloatText cs then .float
  else if isIntText cs then .int
  else if s = "<<" then .merge
  else if isNull s then .null
  else if isStampText cs then .timestamp
  else if s = "=" then .value
  else .text

end JobMatrix.Yaml
