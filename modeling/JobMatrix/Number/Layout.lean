import JobMatrix.Number.Leading
import JobMatrix.Number.Shortest
import JobMatrix.Text.Octets

/-! The layout of numbers and texts in fields: a width, a precision, and flags for the sign, the side
and the fill. -/

namespace JobMatrix

namespace Double

/-- The number with `bits` bits of mantissa that is nearest to a ratio. -/
def nearest (bits : Nat) (negative : Bool) (num den : Nat) : Double :=
  if num = 0 ∨ den = 0 then finite negative 0 0
  else
    let e := floorLog num den - (bits - 1 : Nat)
    let (n, d) := scaled num den e
    let q := roundDiv n d
    if q = 2 ^ bits then finite negative (2 ^ (bits - 1)) (e + 1) else finite negative q e

end Double

def Number.Spelled.toExtended : Number.Spelled → Double
  | .infinite negative => .infinite negative
  | .undefined => .undefined
  | .decimal negative digits exponent =>
    if digits == 0 || exponent < -5100 then .finite negative 0 0
    else if 5000 < exponent then .infinite negative
    else if exponent < 0 then .nearest 64 negative digits (10 ^ exponent.natAbs)
    else .nearest 64 negative (digits * 10 ^ exponent.natAbs) 1
  | .binary negative digits exponent =>
    if digits == 0 || exponent < -17000 then .finite negative 0 0
    else if 17000 < exponent then .infinite negative
    else if exponent < 0 then .nearest 64 negative digits (2 ^ exponent.natAbs)
    else .nearest 64 negative (digits * 2 ^ exponent.natAbs) 1

structure Layout where
  left : Bool := false
  zeros : Bool := false
  plus : Bool := false
  blank : Bool := false
  /-- The form that shows the base of a number, or all its digits. -/
  alternate : Bool := false
  width : Nat := 0
  precision : Option Nat := none
deriving Repr, Inhabited, DecidableEq

namespace Layout

def ofFlags (flags : List Char) : Layout :=
  { left := flags.contains '-', zeros := flags.contains '0', plus := flags.contains '+'
    blank := flags.contains ' ', alternate := flags.contains '#' }

def withWidth (l : Layout) (n : Int) : Layout :=
  { l with width := n.natAbs, left := l.left || n < 0 }

def withPrecision (l : Layout) (n : Int) : Layout :=
  { l with precision := if n < 0 then none else some n.toNat }

def fill (l : Layout) (zeros : Bool) (sign body : List UInt8) : List UInt8 :=
  let gap := l.width - (sign.length + body.length)
  if l.left then sign ++ body ++ List.replicate gap 32
  else if zeros then sign ++ List.replicate gap 48 ++ body
  else List.replicate gap 32 ++ sign ++ body

/-- Some bytes in a field; the precision bounds their number. -/
def text (l : Layout) (data : List UInt8) : List UInt8 :=
  l.fill false [] (l.precision.elim data data.take)

def byte (l : Layout) (b : UInt8) : List UInt8 := l.fill false [] [b]

def sign (l : Layout) (negative : Bool) : String :=
  if negative then "-" else if l.plus then "+" else if l.blank then " " else ""

/-- Digits in a field; the precision is their least number. -/
def digits (l : Layout) (sign ds : String) : List UInt8 :=
  let ds := if ds == "0" && l.precision == some 0 then "" else ds
  let zeros := String.ofList (List.replicate (l.precision.getD 1 - ds.length) '0')
  l.fill (l.zeros && l.precision.isNone) (Octets.ofText sign) (Octets.ofText (zeros ++ ds))

def integer (l : Layout) (n : Int) : List UInt8 := l.digits (l.sign (n < 0)) (toString n.natAbs)

def natural (l : Layout) (letter : Char) (n : Nat) : List UInt8 :=
  let inBase (b : Nat) : String := String.ofList (Nat.toDigits b n)
  match letter with
  | 'o' =>
    if l.alternate then
      let l := { l with precision := l.precision.map (max 1) }
      l.digits "" (if n == 0 then "0" else "0" ++ inBase 8)
    else l.digits "" (inBase 8)
  | 'x' => l.digits (if l.alternate && n != 0 then "0x" else "") (inBase 16)
  | 'X' => l.digits (if l.alternate && n != 0 then "0X" else "") ((inBase 16).map Char.toUpper)
  | _ => l.digits "" (toString n)

def pointed (l : Layout) (fraction : String) : String :=
  if fraction.isEmpty && !l.alternate then "" else "." ++ fraction

/-- The digits of a finite number with one before the point and `places` after it, and the
exponent. -/
def exponential (l : Layout) (places m : Nat) (e : Int) : String × Int :=
  if m == 0 then ("0" ++ l.pointed (String.ofList (List.replicate places '0')), 0)
  else
    let (num, den) := if e < 0 then (m, 2 ^ e.natAbs) else (m * 2 ^ e.natAbs, 1)
    let d := Double.significant num den (places + 1)
    let ds := d.digitText.toList
    let ds := ds ++ List.replicate (places + 1 - ds.length) '0'
    (String.ofList (ds.take 1) ++ l.pointed (String.ofList (ds.drop 1)), d.point - 1)

def fixed (l : Layout) (places m : Nat) (e : Int) : String :=
  (Double.finite false m e).fixed places ++ (if places == 0 && l.alternate then "." else "")

def withoutZeros (s : String) : String :=
  if s.toList.contains '.' then
    let cs := (s.toList.reverse.dropWhile (· == '0'))
    String.ofList ((if cs.head? == some '.' then cs.drop 1 else cs).reverse)
  else s

/-- A finite number with so many significant digits, in the shorter of two forms. -/
def general (l : Layout) (precision m : Nat) (e : Int) : String :=
  let p := if precision == 0 then 1 else precision
  let short (s : String) : String := if l.alternate then s else withoutZeros s
  let (s, exponent) := l.exponential (p - 1) m e
  if exponent < -4 || p ≤ exponent then short s ++ "e" ++ Decimal.exponentText exponent
  else short (l.fixed (p - 1 - exponent).toNat m e)

/-- A finite number in base sixteen, with `lead` bits before the point and `count` digits after it. -/
def hexadecimal (l : Layout) (lead count m : Nat) (e : Int) : String :=
  let bits := 4 * count + lead
  let size := if m == 0 then 0 else m.log2 + 1
  let full := m * 2 ^ (bits - size)
  let e := e - (bits - size : Nat)
  let places := l.precision.getD count
  let kept := if places < count then roundDiv full (2 ^ (4 * (count - places))) else full
  let shown := min places count
  let fraction := Nat.toDigits 16 (kept % 2 ^ (4 * shown))
  let fraction := if shown == 0 then [] else List.replicate (shown - fraction.length) '0' ++ fraction
  let fraction := if l.precision.isNone then Text.dropEndWhile (· == '0') fraction
    else fraction ++ List.replicate (places - count) '0'
  let exponent : Int := if m == 0 then 0 else e + (4 * count : Nat)
  String.ofList (Nat.toDigits 16 (kept / 2 ^ (4 * shown))) ++ l.pointed (String.ofList fraction) ++
    "p" ++ (if exponent < 0 then "-" else "+") ++ toString exponent.natAbs

/-- A number in a field, in the form that a letter stands for; an extended one has a mantissa of 64
bits. -/
def floating (l : Layout) (letter : Char) (x : Double) (extended : Bool := false) : List UInt8 :=
  let (finite, lead, body) : Bool × String × String := match x with
    | .undefined => (false, "", "nan")
    | .infinite _ => (false, "", "inf")
    | .finite _ m e =>
      match letter.toLower with
      | 'f' => (true, "", l.fixed (l.precision.getD 6) m e)
      | 'e' =>
        let (s, exponent) := l.exponential (l.precision.getD 6) m e
        (true, "", s ++ "e" ++ Decimal.exponentText exponent)
      | 'a' =>
        (true, "0x", if extended then l.hexadecimal 4 15 m e else l.hexadecimal 1 13 m e)
      | _ => (true, "", l.general (l.precision.getD 6) m e)
  let cased (s : String) : List UInt8 :=
    Octets.ofText (if letter.isUpper then s.map Char.toUpper else s)
  l.fill (l.zeros && finite) (Octets.ofText (l.sign x.isNegative) ++ cased lead) (cased body)

end Layout

namespace Number

/-- A whole number with which a text starts, its base told by its first digits, and what follows;
none if there is none. -/
def wholeWith? (s : List Char) : Option (Int × List Char) :=
  let (negative, body) := signed (s.dropWhile isSpace)
  let isHex (c : Char) : Bool := (hexDigit? c).isSome
  let (base, digits) : Nat × List Char := match body with
    | '0' :: 'x' :: c :: r => if isHex c then (16, c :: r) else (8, body)
    | '0' :: 'X' :: c :: r => if isHex c then (16, c :: r) else (8, body)
    | '0' :: _ => (8, body)
    | r => (10, r)
  let ds := digits.takeWhile fun c => (hexDigit? c).elim false (· < base)
  if ds.isEmpty then none
  else
    let n : Int := ds.foldl (fun n c => base * n + ((hexDigit? c).getD 0 : Nat)) 0
    some (if negative then -n else n, digits.drop ds.length)

end Number

end JobMatrix
