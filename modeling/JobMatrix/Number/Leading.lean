import JobMatrix.Number.Read

/-! The number with which a text starts: blanks, a sign, then decimal or hexadecimal digits with a
point and an exponent, or the name of an infinity or of the undefined value. -/

namespace JobMatrix.Number

/-- The number with which a text starts, as it is spelled. -/
inductive Spelled where
  /-- `digits * 10 ^ exponent` -/
  | decimal (negative : Bool) (digits : Nat) (exponent : Int)
  /-- `digits * 2 ^ exponent` -/
  | binary (negative : Bool) (digits : Nat) (exponent : Int)
  | infinite (negative : Bool)
  | undefined
deriving DecidableEq, Repr, Inhabited

namespace Spelled

def toDouble : Spelled → Double
  | decimal negative digits exponent => .ofDecimal negative digits exponent
  | binary negative digits exponent =>
    if digits == 0 || exponent < -5000 then .finite negative 0 Double.leastExponent
    else if 5000 < exponent then .infinite negative
    else if exponent < 0 then .ofRatio negative digits (2 ^ exponent.natAbs)
    else .ofRatio negative (digits * 2 ^ exponent.natAbs) 1
  | infinite negative => .infinite negative
  | undefined => .undefined

/-- The exact value; none if it is not finite, or too far from one to be written down. -/
def toRat? : Spelled → Option Rat
  | decimal negative digits exponent =>
    if 20000 < exponent.natAbs then none
    else
      let q : Rat := if exponent < 0 then mkRat digits (10 ^ exponent.natAbs)
        else (digits * 10 ^ exponent.natAbs : Nat)
      some (if negative then -q else q)
  | binary negative digits exponent =>
    if 20000 < exponent.natAbs then none
    else
      let q : Rat := if exponent < 0 then mkRat digits (2 ^ exponent.natAbs)
        else (digits * 2 ^ exponent.natAbs : Nat)
      some (if negative then -q else q)
  | _ => none

end Spelled

def isSpace (c : Char) : Bool := c == ' ' || ('\t' ≤ c && c ≤ '\r')

def hexDigit? (c : Char) : Option Nat :=
  if c.isDigit then some (c.toNat - 48)
  else if 'a' ≤ c && c ≤ 'f' then some (c.toNat - 87)
  else if 'A' ≤ c && c ≤ 'F' then some (c.toNat - 55)
  else none

def natOfHex (s : List Char) : Nat := s.foldl (fun n c => 16 * n + (hexDigit? c).getD 0) 0

def startsWith (word : String) (s : List Char) : Bool :=
  word.toList.isPrefixOf ((s.take word.length).map Char.toLower)

/-- An exponent after one of two letters, and what follows; zero if there is none. -/
def exponentOf (small : Char) (s : List Char) : Int × List Char :=
  match s with
  | c :: r =>
    if c.toLower == small then
      let (down, ds) := signed r
      let digits := ds.takeWhile Char.isDigit
      if digits.isEmpty then (0, s)
      else
        let n : Int := natOfDigits digits
        (if down then -n else n, ds.drop digits.length)
    else (0, s)
  | [] => (0, s)

def pointed (isDigit : Char → Bool) (s : List Char) : List Char × List Char × List Char :=
  let whole := s.takeWhile isDigit
  match s.drop whole.length with
  | '.' :: r =>
    let fraction := r.takeWhile isDigit
    if whole.isEmpty && fraction.isEmpty then ([], [], s)
    else (whole, fraction, r.drop fraction.length)
  | r => (whole, [], r)

def leading? (s : List Char) : Option (Spelled × List Char) :=
  let (negative, body) := signed (s.dropWhile isSpace)
  let decimal : Option (Spelled × List Char) :=
    let (whole, fraction, rest) := pointed Char.isDigit body
    if whole.isEmpty && fraction.isEmpty then none
    else
      let (e, rest) := exponentOf 'e' rest
      some (.decimal negative (natOfDigits (whole ++ fraction)) (e - fraction.length), rest)
  if startsWith "infinity" body then some (.infinite negative, body.drop 8)
  else if startsWith "inf" body then some (.infinite negative, body.drop 3)
  else if startsWith "nan" body then some (.undefined, body.drop 3)
  else if startsWith "0x" body then
    let (whole, fraction, rest) := pointed (fun c => (hexDigit? c).isSome) (body.drop 2)
    if whole.isEmpty && fraction.isEmpty then decimal
    else
      let (e, rest) := exponentOf 'p' rest
      some (.binary negative (natOfHex (whole ++ fraction)) (e - 4 * fraction.length), rest)
  else decimal

def whole? (s : String) : Option Spelled :=
  match leading? s.toList with
  | some (x, []) => some x
  | _ => none

end JobMatrix.Number
