/-! Binary numbers of double precision as exact values: a sign and `mantissa * 2 ^ exponent`. Every
operation is computed exactly on rationals and rounded once, to the nearest number and on a tie to
the one with the even mantissa. -/

attribute [default_instance 20000] instPowNat

namespace JobMatrix

/-- Powers are those of the core library, whatever else is known of numbers. -/
instance (priority := 1100) powNat : Pow Nat Nat := instPowNat

instance (priority := 1100) powInt : Pow Int Nat := instPowNat

/-- A number of double precision. Finite numbers keep 53 bits of mantissa unless they are so small
that the exponent has reached its least value. -/
inductive Double where
  | finite (negative : Bool) (mantissa : Nat) (exponent : Int)
  | infinite (negative : Bool)
  | undefined
deriving DecidableEq, Repr, Inhabited

/-- The quotient rounded to the nearest integer, a half to the even one. -/
def roundDiv (num den : Nat) : Nat :=
  let q := num / den
  let r := 2 * (num % den)
  if r < den then q
  else if den < r then q + 1
  else if q % 2 = 0 then q else q + 1

namespace Double

def leastExponent : Int := -1074

def greatestExponent : Int := 971

def zero : Double := finite false 0 leastExponent

/-- `num / den` divided by `2 ^ e`, as a fraction. -/
def scaled (num den : Nat) (e : Int) : Nat × Nat :=
  if e < 0 then (num * 2 ^ (-e).toNat, den) else (num, den * 2 ^ e.toNat)

/-- The greatest `e` with `2 ^ e ≤ num / den`, for positive `num` and `den`. -/
def floorLog (num den : Nat) : Int :=
  let e : Int := (num.log2 : Int) - (den.log2 : Int)
  let (n, d) := scaled num den e
  if d ≤ n then e else e - 1

/-- The number nearest to `num / den`, with the given sign. -/
def ofRatio (negative : Bool) (num den : Nat) : Double :=
  if num = 0 ∨ den = 0 then finite negative 0 leastExponent
  else
    let e := max (floorLog num den - 52) leastExponent
    let (n, d) := scaled num den e
    let q := roundDiv n d
    let (m, e) := if q = 2 ^ 53 then (2 ^ 52, e + 1) else (q, e)
    if greatestExponent < e then infinite negative else finite negative m e

def ofRat (q : Rat) : Double :=
  ofRatio (q < 0) q.num.natAbs q.den

/-- The number nearest to an integer, none when it is out of range. -/
def ofInt? (n : Int) : Option Double :=
  match ofRatio (n < 0) n.natAbs 1 with
  | infinite _ => none
  | x => some x

/-- The number nearest to `(-1) ^ negative * digits * 10 ^ exponent`. Exponents far out of range are
settled without computing the power. -/
def ofDecimal (negative : Bool) (digits : Nat) (exponent : Int) : Double :=
  let size : Int := (digits.log2 : Int) / 3 + exponent
  if digits = 0 ∨ size < -400 then finite negative 0 leastExponent
  else if 400 + (digits.log2 : Int) < size then infinite negative
  else if exponent < 0 then ofRatio negative digits (10 ^ (-exponent).toNat)
  else ofRatio negative (digits * 10 ^ exponent.toNat) 1

def toRat? : Double → Option Rat
  | finite negative m e =>
    let magnitude : Rat := if e < 0 then mkRat m (2 ^ (-e).toNat) else (m * 2 ^ e.toNat : Nat)
    some (if negative then -magnitude else magnitude)
  | _ => none

def isNegative : Double → Bool
  | finite negative _ _ => negative
  | infinite negative => negative
  | undefined => false

def isZero : Double → Bool
  | finite _ m _ => m == 0
  | _ => false

def isUndefined : Double → Bool
  | undefined => true
  | _ => false

def neg : Double → Double
  | finite negative m e => finite (!negative) m e
  | infinite negative => infinite (!negative)
  | undefined => undefined

/-- The rounded sum. A sum of zero is positive unless both terms are negative. -/
def add : Double → Double → Double
  | undefined, _ => undefined
  | _, undefined => undefined
  | infinite s, infinite t => if s = t then infinite s else undefined
  | infinite s, _ => infinite s
  | _, infinite t => infinite t
  | x@(finite s _ _), y@(finite t _ _) =>
    let sum := x.toRat?.getD 0 + y.toRat?.getD 0
    if sum = 0 then finite (s && t) 0 leastExponent else ofRat sum

def mul : Double → Double → Double
  | undefined, _ => undefined
  | _, undefined => undefined
  | infinite s, y => if y.isZero then undefined else infinite (s != y.isNegative)
  | x, infinite t => if x.isZero then undefined else infinite (x.isNegative != t)
  | x@(finite s m _), y@(finite t n _) =>
    if m = 0 ∨ n = 0 then finite (s != t) 0 leastExponent
    else ofRat (x.toRat?.getD 0 * y.toRat?.getD 0)

def compare? : Double → Double → Option Ordering
  | undefined, _ => none
  | _, undefined => none
  | infinite s, infinite t =>
    some (if s = t then .eq else if s then .lt else .gt)
  | infinite s, _ => some (if s then .lt else .gt)
  | _, infinite t => some (if t then .gt else .lt)
  | x, y =>
    let a := x.toRat?.getD 0
    let b := y.toRat?.getD 0
    some (if a < b then .lt else if b < a then .gt else .eq)

def compareRat? (x : Double) (q : Rat) : Option Ordering :=
  match x with
  | undefined => none
  | infinite s => some (if s then .lt else .gt)
  | x =>
    let a := x.toRat?.getD 0
    some (if a < q then .lt else if q < a then .gt else .eq)

def truncate? : Double → Option Int
  | finite negative m e =>
    let magnitude : Nat := if e < 0 then m / 2 ^ (-e).toNat else m * 2 ^ e.toNat
    some (if negative then -(magnitude : Int) else magnitude)
  | _ => none

def toInt? (x : Double) : Option Int :=
  match x.truncate? with
  | some n => if x.toRat? = some (n : Rat) then some n else none
  | none => none

/-- `|x| * 10 ^ places` rounded to an integer, a half to the even one. -/
def places (m : Nat) (e : Int) (places : Nat) : Nat :=
  if e < 0 then roundDiv (m * 10 ^ places) (2 ^ (-e).toNat) else m * 2 ^ e.toNat * 10 ^ places

/-- The number nearest to the decimal with `n` places that is nearest to `x`. -/
def roundTo (n : Nat) : Double → Double
  | finite negative m e => ofRatio negative (places m e n) (10 ^ n)
  | x => x

end Double

end JobMatrix
