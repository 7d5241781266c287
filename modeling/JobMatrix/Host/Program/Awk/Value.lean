import JobMatrix.Number.Layout
import JobMatrix.Host.Program.Awk.Syntax

/-! Values that are texts or numbers as they are needed, and the layout of values by a format. -/

namespace JobMatrix.Program.Awk

inductive Value where
  | unset
  | number (x : Double)
  | text (s : String)
  /-- A text from outside, which is a number if it looks like one. -/
  | input (s : String)
deriving Repr, Inhabited

namespace Value

def numberOf (s : String) : Double :=
  match Number.leading? s.toList with
  | some (x, _) => x.toDouble
  | none => Double.zero

def looksNumeric? (s : String) : Option Double :=
  let cs := s.toList.dropWhile Number.isSpace
  let starts := match cs with
    | c :: _ => c.isDigit || c == '+' || c == '-' || c == '.'
    | [] => false
  if !starts then none
  else match Number.leading? cs with
    | some (x, rest) => if rest.all Number.isSpace then some x.toDouble else none
    | none => none

def toNumber : Value → Double
  | unset => Double.zero
  | number x => x
  | text s => numberOf s
  | input s => numberOf s

def ofInt (n : Int) : Value := number ((Double.ofInt? n).getD Double.zero)

def ofNat (n : Nat) : Value := ofInt n

def ofBool (b : Bool) : Value := ofNat (if b then 1 else 0)

def isTrue : Value → Bool
  | unset => false
  | number x => !x.isZero
  | text s => !s.isEmpty
  | input s =>
    match looksNumeric? s with
    | some x => !x.isZero
    | none => !s.isEmpty

end Value

/-- A number cut to an integer of 64 bits; those that are out of range are brought to its bounds. -/
def toLong (x : Double) : Int :=
  match x with
  | .infinite negative => if negative then -(2 ^ 63 - 1) else 2 ^ 63 - 1
  | .undefined => -(2 ^ 63)
  | x => max (-(2 ^ 63 - 1)) (min (2 ^ 63 - 1) ((x.truncate?).getD 0))

inductive FormatFlaw where
  | tooFew
  | improper (number : Nat)
deriving DecidableEq, Repr

def FormatFlaw.text (name format : String) : FormatFlaw → String
  | tooFew => "not enough arguments passed to " ++ name ++ "(\"" ++ format ++ "\")"
  | improper n =>
    "improper conversion(number " ++ toString n ++ ") in " ++ name ++ "(\"" ++ format ++ "\")"

def plainText (format : String) (x : Double) : String :=
  match x.toInt? with
  | some n => if n.natAbs ≤ 2 ^ 63 then toString (toLong x) else formatted
  | none => formatted
where
  formatted : String :=
    let cs := format.toList
    let start := cs.takeWhile (· != '%')
    let flags := (cs.drop (start.length + 1)).takeWhile ("-+ #0".toList.contains ·)
    let rest := cs.drop (start.length + 1 + flags.length)
    let width := rest.takeWhile Char.isDigit
    let rest := rest.drop width.length
    let (precision, rest) : Option (List Char) × List Char := match rest with
      | '.' :: r => (some (r.takeWhile Char.isDigit), r.dropWhile Char.isDigit)
      | r => (none, r)
    let l : Layout :=
      { Layout.ofFlags flags with
        width := Number.natOfDigits width
        precision := precision.map Number.natOfDigits }
    match rest with
    | [] => format
    | c :: rest =>
      let body : List UInt8 :=
        if c == 'd' || c == 'i' then l.integer (toLong x) else signed l c x
      String.ofList (start ++ Octets.units false body ++ rest)
  /-- A result that is no number has a sign. -/
  signed (l : Layout) (c : Char) (x : Double) : List UInt8 :=
    match x with
    | .undefined => l.fill false [] (Octets.ofText (if c.isUpper then "-NAN" else "-nan"))
    | x => l.floating c x

namespace Value

/-- The text of a value; numbers are written by a format. -/
def toText (format : String) : Value → String
  | unset => ""
  | number x => plainText format x
  | text s => s
  | input s => s

def compare (format : String) (a b : Value) : Ordering :=
  let asNumber : Value → Option Double
    | unset => some Double.zero
    | number x => some x
    | text _ => none
    | input s => looksNumeric? s
  match asNumber a, asNumber b with
  | some x, some y => (x.compare? y).getD .gt
  | _, _ => Ord.compare (a.toText format) (b.toText format)

end Value

def countOf (cs : List Char) (args : List Value) :
    Except FormatFlaw (Option Int × List Char × List Value) :=
  match cs with
  | '*' :: rest =>
    match args with
    | a :: more => .ok (some (toLong a.toNumber), rest, more)
    | [] => .error .tooFew
  | _ =>
    let digits := cs.takeWhile Char.isDigit
    let n : Option Int := if digits.isEmpty then none else some (Number.natOfDigits digits)
    .ok (n, cs.drop digits.length, args)

/-- A value in a field, as a letter says; none if there is no such letter. -/
def fieldOf? (conversion : String) (l : Layout) (letter : Char) (v : Value) :
    Option (List UInt8) :=
  match letter with
  | 's' => some (l.text (Octets.ofChars (v.toText conversion).toList))
  | 'c' =>
    let code (x : Double) : List UInt8 :=
      l.byte (UInt8.ofNat ((toLong x) % 256).toNat)
    some (match v with
      | .number x => code x
      | .input s =>
        match Value.looksNumeric? s with
        | some x => code x
        | none => first s
      | .text s => first s
      | .unset => first "")
  | 'd' => some (l.integer (toLong v.toNumber))
  | 'i' => some (l.integer (toLong v.toNumber))
  | _ =>
    if ['o', 'x', 'X', 'u'].contains letter then
      let x := v.toNumber
      let n : Int := match x.truncate? with
        | some n => if n < 0 then n % 2 ^ 64 else min n (2 ^ 64 - 1)
        | none => 2 ^ 64 - 1
      some (l.natural letter n.toNat)
    else if ['e', 'E', 'f', 'F', 'g', 'G', 'a', 'A'].contains letter then
      some (plainText.signed l letter v.toNumber)
    else none
where
  first (s : String) : List UInt8 :=
    match s.toList with
    | c :: _ => l.fill false [] (Octets.charBytes c)
    | [] => l.byte 0

def layOut (conversion : String) : Nat → Nat → List Char → List Value → List (List UInt8) →
    List UInt8 × Option FormatFlaw
  | 0, _, _, _, done => (done.reverse.flatten, none)
  | fuel + 1, number, cs, args, done =>
    match cs with
    | [] => (done.reverse.flatten, none)
    | '%' :: '%' :: rest => layOut conversion fuel number rest args ([37] :: done)
    | '%' :: rest =>
      match directive rest args with
      | .ok (data, rest, args) => layOut conversion fuel (number + 1) rest args (data :: done)
      | .error e =>
        let e := match e with
          | .improper _ => FormatFlaw.improper number
          | e => e
        (done.reverse.flatten, some e)
    | c :: rest => layOut conversion fuel number rest args (Octets.charBytes c :: done)
where
  directive (rest : List Char) (args : List Value) :
      Except FormatFlaw (List UInt8 × List Char × List Value) := do
    let flags := rest.takeWhile ("-+ #0".toList.contains ·)
    let l := Layout.ofFlags flags
    let (width, rest, args) ← countOf (rest.drop flags.length) args
    let l := width.elim l l.withWidth
    let (l, rest, args) ← match rest with
      | '.' :: r => do
        let (precision, rest, args) ← countOf r args
        pure (l.withPrecision (precision.getD 0), rest, args)
      | r => pure (l, r, args)
    let rest := rest.dropWhile fun c => c == 'l' || c == 'h'
    match args with
    | [] => throw .tooFew
    | v :: more =>
      match rest with
      | [] => throw (.improper 0)
      | c :: rest =>
        match fieldOf? conversion l c v with
        | some data => return (data, rest, more)
        | none => throw (.improper 0)

end JobMatrix.Program.Awk
