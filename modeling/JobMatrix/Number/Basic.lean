import JobMatrix.Number.Shortest
import JobMatrix.Value.Basic

/-! Numbers of a document: integers of any size and binary numbers of double precision, with their
exact values. -/

namespace JobMatrix

/-- An integer or a binary number. -/
inductive Number where
  | int (n : Int)
  | float (x : Double)
deriving DecidableEq, Repr, Inhabited

/-- An exact amount: a rational, an infinity, or no amount at all. -/
inductive Amount where
  | exactly (q : Rat)
  | above
  | below
  | unknown
deriving DecidableEq, Inhabited

namespace Amount

/-- Strictly less; an unknown amount compares with nothing. -/
def less : Amount → Amount → Bool
  | exactly a, exactly b => a < b
  | below, exactly _ => true
  | below, above => true
  | exactly _, above => true
  | _, _ => false

def nonpositive : Amount → Bool
  | exactly q => q ≤ 0
  | below => true
  | _ => false

def plus (q : Rat) : Amount → Amount
  | exactly a => exactly (q + a)
  | a => a

def minus (a : Amount) (q : Rat) : Amount :=
  match a with
  | exactly b => exactly (b - q)
  | a => a

end Amount

namespace Number

def text : Number → String
  | int n => toString n
  | float x => x.text

def scalar : Number → Scalar
  | int n => .int n
  | float x => .float x

def isZero : Number → Bool
  | int n => n == 0
  | float x => x.isZero

def amount : Number → Amount
  | int n => .exactly n
  | float (.infinite false) => .above
  | float (.infinite true) => .below
  | float .undefined => .unknown
  | float x => .exactly (x.toRat?.getD 0)

/-- The number as a binary one, none when an integer is out of range. -/
def toDouble? : Number → Option Double
  | int n => Double.ofInt? n
  | float x => some x

/-- The sum: exact for two integers, else rounded; none when an integer is out of range for that. -/
def add? : Number → Number → Option Number
  | int m, int n => some (int (m + n))
  | a, b =>
    match a.toDouble?, b.toDouble? with
    | some x, some y => some (float (x.add y))
    | _, _ => none

def sum? (ns : List Number) : Option Number := ns.foldlM add? (int 0)

end Number

/-- The number that a value is; truth values are none. -/
def Value.number? : Value → Option Number
  | scalar (.int n) => some (.int n)
  | scalar (.float x) => some (.float x)
  | _ => none

end JobMatrix
