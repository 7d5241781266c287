import JobMatrix.Number.Double
import JobMatrix.Text.Blank
import JobMatrix.Text.Digit

/-! Numbers as people type them: white space around, a sign, digits of any script with single
underscores between them. -/

namespace JobMatrix.Number

/-- White space that may stand around a number: all but the four separator controls. -/
def isBlankAround (c : Char) : Bool :=
  Text.isBlank c && !(28 ≤ c.toNat && c.toNat ≤ 31)

def trimmed (s : String) : List Char :=
  Text.asciiDigits (Text.dropEndWhile isBlankAround (s.toList.dropWhile isBlankAround))

def signed : List Char → Bool × List Char
  | '-' :: r => (true, r)
  | '+' :: r => (false, r)
  | r => (false, r)

/-- A text without the underscores that stand between two digits; none when an underscore stands
elsewhere. `digit` says whether the character before was a digit. -/
def withoutUnderscores : Bool → List Char → Option (List Char)
  | _, [] => some []
  | digit, '_' :: c :: r =>
    if digit && c.isDigit then (withoutUnderscores true r).map (c :: ·) else none
  | _, c :: r => if c = '_' then none else (withoutUnderscores c.isDigit r).map (c :: ·)

def natOfDigits (s : List Char) : Nat :=
  s.foldl (fun n c => 10 * n + (c.toNat - 48)) 0

def readInt? (s : String) : Option Int :=
  let (negative, digits) := signed (trimmed s)
  match withoutUnderscores false digits with
  | none => none
  | some ds =>
    if ds.isEmpty || !ds.all Char.isDigit then none
    else some (if negative then -(natOfDigits ds : Int) else natOfDigits ds)

/-- The unsigned number `digits [. digits] [e [sign] digits]`, with a digit on one side of the point
at least. -/
def readUnsigned? (negative : Bool) (s : List Char) : Option Double :=
  let whole := s.takeWhile Char.isDigit
  let afterWhole := s.dropWhile Char.isDigit
  let (fraction, afterFraction) := match afterWhole with
    | '.' :: r => (r.takeWhile Char.isDigit, r.dropWhile Char.isDigit)
    | r => ([], r)
  if whole.isEmpty && fraction.isEmpty then none
  else
    let value (exponent : Int) : Double :=
      Double.ofDecimal negative (natOfDigits (whole ++ fraction)) (exponent - fraction.length)
    match afterFraction with
    | [] => some (value 0)
    | c :: r =>
      if c = 'e' ∨ c = 'E' then
        let (down, ds) := signed r
        if ds.isEmpty || !ds.all Char.isDigit then none
        else some (value (if down then -(natOfDigits ds : Int) else natOfDigits ds))
      else none

/-- A number in decimal notation, an infinity or the undefined value. -/
def readDouble? (s : String) : Option Double :=
  match withoutUnderscores false (trimmed s) with
  | none => none
  | some cs =>
    let (negative, r) := signed cs
    let word := String.ofList (r.map Char.toLower)
    if word = "inf" ∨ word = "infinity" then some (.infinite negative)
    else if word = "nan" then some .undefined
    else readUnsigned? negative r

end JobMatrix.Number
