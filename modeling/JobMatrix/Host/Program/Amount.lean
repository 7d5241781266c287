import JobMatrix.Number.Read

/-! Whole numbers as arguments of programs, with a suffix that multiplies them. -/

namespace JobMatrix.Program

inductive Misnumber where
  | malformed
  | tooGreat
deriving DecidableEq, Repr

def powerOf? (c : Char) : Option Nat :=
  match c with
  | 'k' => some 1
  | 'K' => some 1
  | 'm' => some 2
  | 'M' => some 2
  | 'G' => some 3
  | 'T' => some 4
  | 'P' => some 5
  | 'E' => some 6
  | 'Z' => some 7
  | 'Y' => some 8
  | _ => none

def multiplier? : List Char → Option Nat
  | [] => some 1
  | ['b'] => some 512
  | [c] => (powerOf? c).map fun p => 1024 ^ p
  | [c, 'B'] => (powerOf? c).map fun p => 1000 ^ p
  | [c, 'i', 'B'] => (powerOf? c).map fun p => 1024 ^ p
  | _ => none

def greatest : Nat := 2 ^ 64 - 1

def amount (s : List Char) : Except Misnumber Nat :=
  let digits := s.takeWhile Char.isDigit
  if digits.isEmpty then .error .malformed
  else match multiplier? (s.drop digits.length) with
    | none => .error .malformed
    | some m =>
      let n := Number.natOfDigits digits * m
      if greatest < n then .error .tooGreat else .ok n

def plainNumber? (s : String) : Option Nat :=
  let cs := s.toList
  if cs.isEmpty || !cs.all Char.isDigit then none else some (Number.natOfDigits cs)

/-- A whole number between two bounds; otherwise why not, in the words of the system. -/
def bounded (low high : Int) (text : String) : Except String Int :=
  let cs := text.toList.dropWhile fun c => c == ' ' || ('\t' ≤ c && c ≤ '\r')
  let (negative, ds) := Number.signed cs
  if ds.isEmpty || ds.any (fun c => !c.isDigit) then .error ""
  else
    let n : Int := Number.natOfDigits ds
    let n := if negative then -n else n
    if low ≤ n && n ≤ high then .ok n
    else if n.natAbs < 2 ^ 30 then .error ": Numerical result out of range"
    else .error ": Value too large for defined data type"

/-- A number of bytes in the greatest unit that it fills, rounded up: with one place below ten. -/
def humanText (base n : Nat) : String :=
  let units := (List.range 9).filter fun k => base ^ k ≤ n
  let k := units.getLast?.getD 0
  let letters := if base == 1000 then "kMGTPEZY" else "KMGTPEZY"
  let letter (k : Nat) : String := ((letters.toList[k - 1]?).map String.singleton).getD ""
  let up (num den : Nat) : Nat := (num + den - 1) / den
  if k == 0 then toString n
  else
    let tenths := up (10 * n) (base ^ k)
    if tenths < 100 then s!"{tenths / 10}.{tenths % 10}" ++ letter k
    else
      let whole := up n (base ^ k)
      if whole == base && k < 8 then "1.0" ++ letter (k + 1) else toString whole ++ letter k

end JobMatrix.Program
