import JobMatrix.Number.Double

/-! Decimal texts of binary numbers: the fewest digits that read back as the same number, a given
number of significant digits, and a given number of places. -/

namespace JobMatrix

/-- A decimal `digits * 10 ^ exponent`. -/
structure Decimal where
  digits : Nat
  exponent : Int
deriving DecidableEq, Repr, Inhabited

namespace Decimal

/-- The same decimal without zeros at the end of its digits; `fuel` bounds their number. -/
def trimmed : Nat → Decimal → Decimal
  | 0, d => d
  | fuel + 1, d =>
    if d.digits = 0 then d
    else if d.digits % 10 = 0 then trimmed fuel ⟨d.digits / 10, d.exponent + 1⟩ else d

def digitText (d : Decimal) : String := toString d.digits

def point (d : Decimal) : Int := (d.digitText.length : Int) + d.exponent

def positional (d : Decimal) : String :=
  let ds := d.digitText.toList
  if d.point ≤ 0 then "0." ++ String.ofList (List.replicate (-d.point).toNat '0' ++ ds)
  else if d.exponent < 0 then
    String.ofList (ds.take d.point.toNat) ++ "." ++ String.ofList (ds.drop d.point.toNat)
  else String.ofList (ds ++ List.replicate d.exponent.toNat '0') ++ ".0"

def exponentText (e : Int) : String :=
  let ds := toString e.natAbs
  (if e < 0 then "-" else "+") ++ (if ds.length < 2 then "0" ++ ds else ds)

/-- Notation with one digit before the point and an exponent; `bare` texts stand in for a fraction
when there is one digit only. -/
def scientific (bare : String) (d : Decimal) : String :=
  let ds := d.digitText.toList
  let fraction := ds.drop 1
  String.ofList (ds.take 1) ++
    (if fraction.isEmpty then bare else "." ++ String.ofList fraction) ++
    "e" ++ exponentText (d.point - 1)

end Decimal

namespace Double

/-- `num / den` divided by `10 ^ e`, as a fraction. -/
def tenths (num den : Nat) (e : Int) : Nat × Nat :=
  if e < 0 then (num * 10 ^ (-e).toNat, den) else (num, den * 10 ^ e.toNat)

/-- The greatest `e` with `10 ^ e ≤ num / den`, for positive `num` and `den`. The estimate from the
binary logarithm is exact or one too small. -/
def floorLogTen (num den : Nat) : Int :=
  let e := (floorLog num den * 30103).fdiv 100000
  let (n, d) := tenths num den (e + 1)
  if d ≤ n then e + 1 else e

/-- The decimal of `count` significant digits nearest to `num / den`. -/
def significant (num den count : Nat) : Decimal :=
  let e := floorLogTen num den - (count - 1 : Nat)
  let (n, d) := tenths num den e
  Decimal.trimmed (count + 1) ⟨roundDiv n d, e⟩

/-- Of the two decimals with `count` digits next to the number `4 * m * unit / den`, the nearer one
that lies between the halfway points `low` and `high` to the number's neighbours, which themselves
count when `m` is even. -/
def within? (low mid high unit den : Nat) (even : Bool) (count : Nat) : Option Decimal :=
  let e := floorLogTen (mid * unit) den - (count - 1 : Nat)
  let (n, d) := tenths unit den e
  let inside (k : Nat) : Bool :=
    if even then decide (low * n ≤ k * d ∧ k * d ≤ high * n)
    else decide (low * n < k * d ∧ k * d < high * n)
  let below := mid * n / d
  let above := below + 1
  let nearer := roundDiv (mid * n) d
  if inside nearer then some ⟨nearer, e⟩
  else if inside below then some ⟨below, e⟩
  else if inside above then some ⟨above, e⟩
  else none

/-- The shortest decimal that reads back as `m * 2 ^ e`, for positive `m`. -/
def shortest (m : Nat) (e : Int) : Decimal :=
  let (unit, den) := scaled 1 1 (2 - e)
  let low := if m = 2 ^ 52 ∧ leastExponent < e then 4 * m - 1 else 4 * m - 2
  let found := (List.range 17).findSome? fun i =>
    within? low (4 * m) (4 * m + 2) unit den (m % 2 = 0) (i + 1)
  Decimal.trimmed 20 (found.getD (significant (4 * m * unit) den 17))

/-- The text of a number: the fewest digits that read back, positional from `1e-4` to below `1e16`,
always with a fraction or an exponent. -/
def text : Double → String
  | undefined => "nan"
  | infinite negative => if negative then "-inf" else "inf"
  | finite negative m e =>
    (if negative then "-" else "") ++
      if m = 0 then "0.0"
      else
        let d := shortest m e
        if d.point ≤ -4 ∨ 16 < d.point then d.scientific "" else d.positional

/-- The text with a fixed number of places, a half to the even digit. -/
def fixed (n : Nat) : Double → String
  | undefined => "nan"
  | infinite negative => if negative then "-inf" else "inf"
  | finite negative m e =>
    let whole := places m e n
    let fraction := toString (whole % 10 ^ n)
    (if negative then "-" else "") ++ toString (whole / 10 ^ n) ++
      if n = 0 then ""
      else "." ++ String.ofList (List.replicate (n - fraction.length) '0') ++ fraction

end Double

end JobMatrix
