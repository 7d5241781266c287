import JobMatrix.Number.Shortest

/-! Reals and texts. The fifteen digits of a real in a text column are taken one after another from a
value between one and ten that is kept to sixty-four bits, so that a half may go either way. A text in
a column of numbers is read with the same number of bits, so that it may miss the nearest real. -/

namespace JobMatrix.History.RealText

def precision : Nat := 64

/-- The nearest number with so many bits to one that is not negative, a half to the even one. -/
def kept (q : Rat) : Rat :=
  if q ≤ 0 then 0
  else
    let num := q.num.toNat
    let e := Double.floorLog num q.den - (precision - 1)
    let (n, d) := Double.scaled num q.den e
    (roundDiv n d : Rat) * (2 : Rat) ^ e

def constant (digits : Nat) (exponent : Int) : Rat :=
  ((Double.ofDecimal false digits exponent).toRat?).getD 0

/-- A power of ten, and its exponent. -/
structure Scale where
  power : Rat
  exponent : Int

/-- The greatest scale in steps of `10 ^ gain` above a given one that a value reaches. -/
def climb (value : Rat) (gain : Nat) : Nat → Scale → Scale
  | 0, s => s
  | fuel + 1, s =>
    let power := kept (constant 1 gain * s.power)
    if power ≤ value then climb value gain fuel ⟨power, s.exponent + gain⟩ else s

/-- A value lifted in steps of `10 ^ gain` until it reaches a bound, and the exponent lost. -/
def lift (bound : Rat) (gain : Nat) : Nat → Rat × Int → Rat × Int
  | 0, s => s
  | fuel + 1, (value, exponent) =>
    if value < bound then
      lift bound gain fuel (kept (value * constant 1 gain), exponent - gain)
    else (value, exponent)

/-- A positive value between one and ten, and the exponent that it is to be taken with. -/
def normal (value : Rat) : Rat × Int :=
  let s := climb value 1 10 (climb value 10 10 (climb value 100 4 ⟨1, 0⟩))
  lift 1 1 10 (lift (constant 1 (-8)) 8 50 (kept (value / s.power), s.exponent))

def half : Rat :=
  ((Double.mul (Double.ofDecimal false 5 (-5)) (Double.ofDecimal false 1 (-10))).toRat?).getD 0

def digits : Nat → Nat → Rat → Nat
  | 0, acc, _ => acc
  | count + 1, acc, value =>
    let d := value.floor.toNat
    digits count (acc * 10 + d) (kept ((value - (d : Rat)) * 10))

def decimal (value : Rat) : Decimal :=
  let (value, exponent) := normal value
  let raised := kept (value + half)
  let (value, exponent) :=
    if 10 ≤ raised then (kept (raised * constant 1 (-1)), exponent + 1) else (raised, exponent)
  Decimal.trimmed 16 ⟨digits 15 0 value, exponent - 14⟩

/-- The text of a real: at most fifteen digits, always with a point. -/
def text (x : Double) : String :=
  match x, x.toRat? with
  | .infinite negative, _ => if negative then "-Inf" else "Inf"
  | _, none => ""
  | x, some q =>
    if q = 0 then "0.0"
    else
      let d := decimal (if q < 0 then -q else q)
      let sign := if x.isNegative then "-" else ""
      let exponent := d.point - 1
      sign ++ (if exponent < -4 || 15 ≤ exponent then d.scientific ".0" else d.positional)

def roomy : Nat := (2 ^ 63 - 10) / 10

/-- The significand of digits before the point, and how many of them are left out. -/
def wholeDigits : Nat → List Char → Nat × Nat
  | s, [] => (s, 0)
  | s, c :: rest =>
    let s := s * 10 + (c.toNat - 48)
    if roomy ≤ s then (s, rest.length) else wholeDigits s rest

/-- The significand after digits behind the point, and how many of them it takes. -/
def fractionDigits : Nat → List Char → Nat × Nat
  | s, [] => (s, 0)
  | s, c :: rest =>
    if s < roomy then
      let (s, count) := fractionDigits (s * 10 + (c.toNat - 48)) rest
      (s, count + 1)
    else (s, 0)

/-- A significand with as much of a power of ten in it as there is room for, and what is left. -/
def absorb : Nat → Nat → Nat → Nat × Nat
  | 0, s, e => (s, e)
  | fuel + 1, s, e => if e = 0 ∨ (2 ^ 63 - 1) / 10 ≤ s then (s, e) else absorb fuel (s * 10) (e - 1)

/-- A significand without zeros at its end, as far as a negative power of ten goes. -/
def shed : Nat → Nat → Nat → Nat × Nat
  | 0, s, e => (s, e)
  | fuel + 1, s, e => if e = 0 ∨ s % 10 ≠ 0 then (s, e) else shed fuel (s / 10) (e - 1)

def power : Nat → Nat → Rat → Rat → Rat
  | 0, _, _, r => r
  | fuel + 1, e, x, r =>
    let r := if e % 2 = 1 then kept (r * x) else r
    if e / 2 = 0 then r else power fuel (e / 2) (kept (x * x)) r

def tenTo (e : Nat) : Rat := power 10 e 10 1

/-- `s * 10 ^ e`, or `s / 10 ^ e` if `down`, in steps that each round. -/
def scaledBy (s e : Nat) (down : Bool) : Double :=
  let step (e : Nat) : Double := .ofRat (kept (if down then s / tenTo e else s * tenTo e))
  if e = 0 then .ofRat s
  else if e ≤ 307 then step e
  else if e < 342 then
    let limit := constant 1 308
    match (step (e - 308)).toRat? with
    | some q => .ofRat (if down then q / limit else q * limit)
    | none => .infinite false
  else if down then .zero else .infinite false

def read (negative : Bool) (whole fraction : List Char) (exponent : Int) : Double :=
  let (s, skipped) := wholeDigits 0 whole
  let (s, taken) := fractionDigits s fraction
  let e := (if exponent < -10000 then -10000 else min exponent 10000) + skipped - taken
  let x :=
    if s = 0 then .zero
    else if 0 ≤ e then
      let (s, e) := absorb 20 s e.toNat
      scaledBy s e false
    else
      let (s, e) := shed 20 s e.natAbs
      scaledBy s e true
  if negative then x.neg else x

end JobMatrix.History.RealText
