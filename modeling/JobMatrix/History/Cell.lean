import JobMatrix.History.RealText
import JobMatrix.History.Refusal
import JobMatrix.Number.Read
import JobMatrix.Value.Json

/-! The cells of the history tables. A column has an affinity: the form that it gives to what is put
into it, and to what it is compared with. -/

namespace JobMatrix.History

inductive Cell where
  | null
  | int (n : Int)
  | real (x : Double)
  | text (s : String)
  | bytes (data : List UInt8)
deriving DecidableEq, Repr, Inhabited

inductive Affinity where
  | text
  | integer
  | real
deriving DecidableEq, Repr

namespace Cell

def isSpace (c : Char) : Bool :=
  c == ' ' || ('\t'.toNat ≤ c.toNat && c.toNat ≤ '\r'.toNat)

/-- The digits before and after the point, and the exponent, of a text that is a number and nothing
else. -/
def numeral? (s : List Char) : Option (List Char × List Char × Int) :=
  let isDigit (c : Char) := c.isDigit
  let whole := s.takeWhile isDigit
  let (fraction, rest) := match s.dropWhile isDigit with
    | '.' :: rest => (rest.takeWhile isDigit, rest.dropWhile isDigit)
    | rest => ([], rest)
  if whole.isEmpty && fraction.isEmpty then none
  else match rest with
    | [] => some (whole, fraction, 0)
    | c :: rest =>
      let (negative, digits) := Number.signed rest
      if (c == 'e' || c == 'E') && !digits.isEmpty && digits.all isDigit then
        let n : Int := Number.natOfDigits digits
        some (whole, fraction, if negative then -n else n)
      else none

def fits (n : Int) : Bool := -(2 ^ 63) ≤ n && n < 2 ^ 63

def ofNumeral? (s : String) : Option Cell :=
  let trimmed := Text.dropEndWhile isSpace (s.toList.dropWhile isSpace)
  let (negative, body) := Number.signed trimmed
  match numeral? body with
  | none => none
  | some (whole, fraction, exponent) =>
    let n : Int := Number.natOfDigits whole
    let signed := if negative then -n else n
    if fraction.isEmpty && exponent == 0 && body.all Char.isDigit && fits signed then
      some (int signed)
    else
      some (real (RealText.read negative whole fraction exponent))

/-- A whole number as an integer, where it fits with room to spare. -/
def whole (x : Double) : Cell :=
  match x.toInt? with
  | some n => if -(2 ^ 63) < n && n < 2 ^ 63 - 1 then int n else real x
  | none => real x

def unsigned (x : Double) : Cell := real (if x.isZero then .zero else x)

end Cell

def Affinity.apply (a : Affinity) (c : Cell) : Cell :=
  match a, c with
  | text, .int n => .text (toString n)
  | text, .real x => .text (RealText.text x)
  | integer, .real x => Cell.whole x
  | integer, .text s => match Cell.ofNumeral? s with
    | some (.real x) => Cell.whole x
    | some c => c
    | none => c
  | real, .real x => .unsigned x
  | real, .int n => .real (Double.ofRat n)
  | real, .text s => match Cell.ofNumeral? s with
    | some (.int n) => .real (Double.ofRat n)
    | some (.real x) => .unsigned x
    | _ => c
  | _, c => c

namespace Cell

def rank : Cell → Nat
  | null => 0
  | int _ => 1
  | real _ => 1
  | text _ => 2
  | bytes _ => 3

def textLess (a b : String) : Bool := a.toUTF8.toList < b.toUTF8.toList

def less : Cell → Cell → Bool
  | int m, int n => m < n
  | int m, real y => y.compareRat? m == some .gt
  | real x, int n => x.compareRat? n == some .lt
  | real x, real y => x.compare? y == some .lt
  | text s, text t => textLess s t
  | bytes s, bytes t => s < t
  | a, b => a.rank < b.rank

/-- Whether two cells are equal; nothing equals nothing. -/
def equal : Cell → Cell → Bool
  | null, _ => false
  | _, null => false
  | a, b => !a.less b && !b.less a

/-- The cell for a value: collections are written as JSON, dates as texts. An integer that is too
large has no cell, nor has a text with halves of characters. -/
def ofValue : Value → Except Json.Obstacle (Except Refusal Cell)
  | .scalar .null => .ok (.ok null)
  | .scalar (.bool b) => .ok (.ok (int (if b then 1 else 0)))
  | .scalar (.int n) => .ok (if fits n then .ok (int n) else .error .tooLarge)
  | .scalar (.float x) => .ok (.ok (if x.isUndefined then null else real x))
  | .scalar (.text s) => .ok (.ok (text s))
  | .scalar (.halves points) => .ok (.error (.halves points))
  | .scalar (.date d) => .ok (.ok (text d.text))
  | .scalar (.moment m) => .ok (.ok (text m.text))
  | .scalar (.bytes data) => .ok (.ok (bytes data))
  | v => (Json.write .compact v).map fun s => .ok (text s)

end Cell

def unpackText (s : String) (room : Nat := Json.nestingLimit) : Except Json.ReadError Value :=
  match Json.read s room with
  | .error .malformed => .ok (.text s)
  | read => read

def unpack (v : Value) (room : Nat := Json.nestingLimit) : Except Json.ReadError Value :=
  match v with
  | .scalar (.text s) =>
    match s.toList with
    | '[' :: _ => unpackText s room
    | '\x7b' :: _ => unpackText s room
    | _ => .ok (.text s)
  | v => .ok v

def Cell.toValue : Cell → Except Json.ReadError Value
  | null => .ok .null
  | int n => .ok (.int n)
  | real x => .ok (.float x)
  | text s => unpack (.text s)
  | bytes data => .ok (.scalar (.bytes data))

end JobMatrix.History
