import JobMatrix.Number.Double

/-! The bits of binary numbers, and the operations that are computed on them: quotients, remainders,
powers and the functions of angles and of growth. -/

namespace JobMatrix.Double

/-- The number that the bits of a floating number stand for, with `bits` bits of mantissa. -/
def ofBits (bits exponents : Nat) (n : Nat) : Double :=
  let mantissa := n % 2 ^ bits
  let exponent := n / 2 ^ bits % 2 ^ exponents
  let negative := n / 2 ^ (bits + exponents) % 2 == 1
  let bias : Int := 2 ^ (exponents - 1) - 1 + bits
  if exponent + 1 == 2 ^ exponents then
    if mantissa == 0 then .infinite negative else .undefined
  else if exponent == 0 then .finite negative mantissa (1 - bias)
  else .finite negative (mantissa + 2 ^ bits) (exponent - bias)

def ofFloat (x : Float) : Double := ofBits 52 11 x.toBits.toNat

def toBits : Double → Nat
  | .undefined => 0x7ff8000000000000
  | .infinite negative => (if negative then 2 ^ 63 else 0) + 0x7ff0000000000000
  | .finite negative m e =>
    let sign := if negative then 2 ^ 63 else 0
    if m == 0 then sign
    else
      let up := 52 - m.log2
      let e := e - (up : Int)
      if e < leastExponent then sign + (m <<< up) >>> (leastExponent - e).toNat
      else sign + ((e - leastExponent + 1).toNat <<< 52) + (m <<< up - 2 ^ 52)

def toFloat (x : Double) : Float := .ofBits (UInt64.ofNat x.toBits)

def through₂ (f : Float → Float → Float) (x y : Double) : Double := ofFloat (f x.toFloat y.toFloat)

def div : Double → Double → Double
  | undefined, _ => undefined
  | _, undefined => undefined
  | infinite _, infinite _ => undefined
  | infinite s, y => infinite (s != y.isNegative)
  | x, infinite t => finite (x.isNegative != t) 0 leastExponent
  | finite s m e, finite t n f =>
    if n = 0 then if m = 0 then undefined else infinite (s != t)
    else
      let d := e - f
      if 0 ≤ d then ofRatio (s != t) (m * 2 ^ d.toNat) n
      else ofRatio (s != t) m (n * 2 ^ (-d).toNat)

/-- What is left of a number when another one is taken away from it as often as possible; it has the
sign of the first. -/
def rem : Double → Double → Double
  | undefined, _ => undefined
  | _, undefined => undefined
  | infinite _, _ => undefined
  | x, infinite _ => x
  | finite s m e, finite _ n f =>
    if n = 0 then undefined
    else
      let g := min e f
      let r := (m * 2 ^ (e - g).toNat) % (n * 2 ^ (f - g).toNat)
      if 0 ≤ g then ofRatio s (r * 2 ^ g.toNat) 1 else ofRatio s r (2 ^ (-g).toNat)

end JobMatrix.Double
