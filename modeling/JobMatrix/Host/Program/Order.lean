import JobMatrix.Number.Leading
import JobMatrix.Host.Program.Basic

/-! Orders of lines: by bytes, by numbers of several kinds, by months and by versions. -/

namespace JobMatrix.Program.Order

def bytes : List UInt8 → List UInt8 → Ordering
  | [], [] => .eq
  | [], _ :: _ => .lt
  | _ :: _, [] => .gt
  | a :: x, b :: y => if a < b then .lt else if b < a then .gt else bytes x y

def isBlank (b : UInt8) : Bool := b == 32 || b == 9

def isDigit (b : UInt8) : Bool := 48 ≤ b && b ≤ 57

def isLetter (b : UInt8) : Bool := (65 ≤ b && b ≤ 90) || (97 ≤ b && b ≤ 122)

def upper (b : UInt8) : UInt8 := if 97 ≤ b && b ≤ 122 then b - 32 else b

def decimal (s : List UInt8) : Rat × List UInt8 :=
  let s := s.dropWhile isBlank
  let (negative, s) := match s with
    | 45 :: r => (true, r)
    | r => (false, r)
  let whole := s.takeWhile isDigit
  let after := s.drop whole.length
  let (fraction, rest) := match after with
    | 46 :: r => (r.takeWhile isDigit, r.drop (r.takeWhile isDigit).length)
    | r => ([], r)
  let n : Nat := (whole ++ fraction).foldl (fun n b => 10 * n + (b.toNat - 48)) 0
  let q := mkRat n (10 ^ fraction.length)
  (if negative then -q else q, rest)

def suffixPower (s : List UInt8) : Nat :=
  match s with
  | b :: _ => ("KMGTPEZYRQ".toList.findIdx? fun c => Char.ofNat b.toNat == c ||
      (c == 'K' && b == 107)).elim 0 (· + 1)
  | [] => 0

def human (a b : List UInt8) : Ordering :=
  let (x, r) := decimal a
  let (y, s) := decimal b
  let sign (q : Rat) : Int := if q < 0 then -1 else if q = 0 then 0 else 1
  let power (q : Rat) (r : List UInt8) : Int := sign q * suffixPower r
  (compare (sign x) (sign y)).then ((compare (power x r) (power y s)).then
    (if x < y then .lt else if y < x then .gt else .eq))

def general (s : List UInt8) : Int × Rat :=
  match Number.leading? (s.map fun b => Char.ofNat b.toNat) with
  | none => (0, 0)
  | some (.undefined, _) => (1, 0)
  | some (.infinite true, _) => (2, 0)
  | some (.infinite false, _) => (4, 0)
  | some (x, _) =>
    match x.toRat? with
    | some q => (3, q)
    | none => match x with
      | .decimal negative .. => (if negative then 2 else 4, 0)
      | .binary negative .. => (if negative then 2 else 4, 0)
      | _ => (3, 0)

def generals (a b : List UInt8) : Ordering :=
  let (r, x) := general a
  let (s, y) := general b
  (compare r s).then (if x < y then .lt else if y < x then .gt else .eq)

def month (s : List UInt8) : Nat :=
  let name := ((s.dropWhile isBlank).take 3).map upper
  ((["JAN", "FEB", "MAR", "APR", "MAY", "JUN", "JUL", "AUG", "SEP", "OCT", "NOV", "DEC"].findIdx?
    fun m => Text.bytes m == name)).elim 0 (· + 1)

/-- The rank of a character in a version; a tilde comes before the end. -/
def versionRank : Option UInt8 → Int
  | none => -1
  | some b =>
    if isDigit b then 0 else if isLetter b then b.toNat else if b == 126 then -2
    else b.toNat + 256

def versionParts : Nat → List UInt8 → List UInt8 → Ordering
  | 0, _, _ => .eq
  | fuel + 1, a, b =>
    if a.isEmpty && b.isEmpty then .eq
    else
      let x := a.takeWhile (!isDigit ·)
      let y := b.takeWhile (!isDigit ·)
      let a := a.drop x.length
      let b := b.drop y.length
      let byRank := ranks x y a b
      if byRank != .eq then byRank
      else
        let m := a.takeWhile isDigit
        let n := b.takeWhile isDigit
        let value (ds : List UInt8) : Nat := ds.foldl (fun n d => 10 * n + (d.toNat - 48)) 0
        match compare (value m) (value n) with
        | .eq => versionParts fuel (a.drop m.length) (b.drop n.length)
        | o => o
where
  ranks (x y a b : List UInt8) : Ordering :=
    match x, y with
    | [], [] => .eq
    | c :: x, [] => (compare (versionRank (some c)) (versionRank b.head?)).then (ranks x [] a b)
    | [], d :: y => (compare (versionRank a.head?) (versionRank (some d))).then (ranks [] y a b)
    | c :: x, d :: y =>
      (compare (versionRank (some c)) (versionRank (some d))).then (ranks x y a b)

/-- A name without its endings such as `.tar.gz`. -/
def stem (s : List UInt8) : List UInt8 :=
  let rec cut : Nat → List UInt8 → List UInt8
    | 0, s => s
    | fuel + 1, s =>
      let tail := (s.reverse.takeWhile fun b => isLetter b || isDigit b || b == 126).reverse
      let lead := s.take (s.length - tail.length)
      match tail with
      | c :: _ =>
        if !isDigit c && lead.getLast? == some 46 && 1 < lead.length then cut fuel lead.dropLast
        else s
      | [] => s
  cut s.length s

def version (a b : List UInt8) : Ordering :=
  if a == b then .eq
  else
    let dotted (s : List UInt8) : Nat :=
      if s.isEmpty then 0 else if s == [46] then 1 else if s == [46, 46] then 2
      else if s.head? == some 46 then 3 else 4
    let byDots := compare (dotted a) (dotted b)
    if byDots != .eq then byDots
    else
      let fuel := a.length + b.length + 1
      let first := versionParts fuel (stem a) (stem b)
      if first != .eq then first
      else (versionParts fuel a b).then (bytes a b)

end JobMatrix.Program.Order
