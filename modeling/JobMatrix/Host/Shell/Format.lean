import JobMatrix.Number.Layout

/-! What a shell prints by formats: escapes, and directives that lay out arguments. A format is used
again as long as it takes arguments and some are left. -/

namespace JobMatrix.Shell.Format

def isOctal (c : Char) : Bool := '0' ≤ c && c ≤ '7'

def octal (digits : List Char) : UInt8 :=
  UInt8.ofNat (digits.foldl (fun n c => 8 * n + (c.toNat - 48)) 0)

def letterEscape? (c : Char) : Option UInt8 :=
  match c with
  | '\\' => some 92
  | 'a' => some 7
  | 'b' => some 8
  | 'e' => some 27
  | 'f' => some 12
  | 'n' => some 10
  | 'r' => some 13
  | 't' => some 9
  | 'v' => some 11
  | _ => none

/-- The octal digits after a backslash: at most three, after a zero that is not counted if
`leading`. -/
def octalDigits (leading : Bool) (cs : List Char) : List Char × Nat :=
  let plain :=
    let ds := (cs.take 3).takeWhile isOctal
    (ds, ds.length)
  match cs with
  | '0' :: d :: _ =>
    if leading && isOctal d then
      let ds := ((cs.drop 1).take 3).takeWhile isOctal
      (ds, ds.length + 1)
    else plain
  | _ => plain

def escape? (leading : Bool) (cs : List Char) : Option (UInt8 × Nat) :=
  match cs with
  | [] => none
  | c :: _ =>
    match letterEscape? c with
    | some b => some (b, 1)
    | none =>
      if isOctal c then
        let (ds, n) := octalDigits leading cs
        some (octal ds, n)
      else none

/-- A text with its escapes replaced, and whether an escape ends all output; `skip` characters belong
to an escape that has been read. -/
def unescape (skip : Nat) : List Char → List UInt8 × Bool
  | [] => ([], false)
  | c :: rest =>
    match skip with
    | n + 1 => unescape n rest
    | 0 =>
      if c != '\\' then more (Octets.charBytes c) (unescape 0 rest)
      else if rest.head? == some 'c' then ([], true)
      else match escape? true rest with
        | some (b, n) => more [b] (unescape n rest)
        | none => more [92] (unescape 0 rest)
where
  more (bs : List UInt8) (r : List UInt8 × Bool) : List UInt8 × Bool := (bs ++ r.1, r.2)

def echo (args : List String) : List UInt8 :=
  let (newline, args) := match args with
    | "-n" :: rest => (false, rest)
    | args => (true, args)
  let (out, ended) := unescape 0 (" ".intercalate args).toList
  if newline && !ended then out ++ [10] else out

/-- A directive: flags, width, precision and letter. A star takes the number from an argument. -/
structure Directive where
  flags : List Char
  width : Option (Option Nat)
  precision : Option (Option Nat)
  letter : Char

def count? (cs : List Char) : Option (Option Nat) × List Char :=
  match cs with
  | '*' :: rest => (some none, rest)
  | cs =>
    let ds := cs.takeWhile Char.isDigit
    (if ds.isEmpty then none else some (some (Number.natOfDigits ds)), cs.drop ds.length)

def isFlag (c : Char) : Bool := c == '#' || c == '-' || c == '+' || c == ' ' || c == '0'

def directive? (cs : List Char) : Option (Directive × List Char) :=
  let flags := cs.takeWhile isFlag
  let (width, cs) := count? (cs.drop flags.length)
  let (precision, cs) := match cs with
    | '.' :: rest =>
      let (p, rest) := count? rest
      (some (p.getD (some 0)), rest)
    | cs => (none, cs)
  match cs with
  | letter :: rest => some (⟨flags, width, precision, letter⟩, rest)
  | [] => none

inductive Problem where
  | notNumeric (s : String)
  | partlyNumeric (s : String)
  | outOfRange (s : String)
  | invalidDirective (s : String)
  | noLetter
deriving DecidableEq, Repr

def Problem.text : Problem → String
  | notNumeric s => s ++ ": expected numeric value"
  | partlyNumeric s => s ++ ": not completely converted"
  | outOfRange s => s ++ ": Numerical result out of range"
  | invalidDirective s => s ++ ": invalid directive"
  | noLetter => "missing format character"

def codeOf? (s : String) : Option Nat :=
  match s.toList with
  | '\'' :: _ => some (((Octets.ofText s).getD 1 0).toNat)
  | '"' :: _ => some (((Octets.ofText s).getD 1 0).toNat)
  | _ => none

def leftOver (s : String) (rest : List Char) (fits : Bool) : Option Problem :=
  if !rest.isEmpty then some (.partlyNumeric s)
  else if fits then none
  else some (.outOfRange s)

/-- The integer that an argument spells, held within bounds, and what is wrong with it. -/
def intOf (least greatest : Int) (s : String) : Int × Option Problem :=
  match codeOf? s with
  | some n => (n, none)
  | none =>
    match Number.wholeWith? s.toList with
    | none => (0, if s.isEmpty then none else some (.notNumeric s))
    | some (n, rest) =>
      (max least (min greatest n), leftOver s rest (least ≤ n && n ≤ greatest))

def greatestLong : Int := 9223372036854775807

def leastLong : Int := -9223372036854775808

def greatestWord : Int := 18446744073709551615

def signedOf (s : String) : Int × Option Problem := intOf leastLong greatestLong s

/-- A number without a sign from an argument; one below zero wraps around. -/
def naturalOf (s : String) : Nat × Option Problem :=
  let (n, e) := intOf (-greatestWord) greatestWord s
  let wide : Bool := e == some (.outOfRange s)
  ((if wide then greatestWord else Int.emod n (greatestWord + 1)).toNat, e)

def doubleOf (s : String) : Double × Option Problem :=
  match codeOf? s with
  | some n => (.ofRat n, none)
  | none =>
    match Number.leading? s.toList with
    | none => (.zero, if s.isEmpty then none else some (.notNumeric s))
    | some (x, rest) =>
      let d := x.toDouble
      let lost : Bool := match x, d with
        | .decimal _ digits _, .infinite _ => digits != 0
        | .decimal _ digits _, .finite _ m _ => digits != 0 && m == 0
        | _, _ => false
      (d, leftOver s rest (!lost))

/-- What has been written, the latest first, what is wrong with arguments, whether output has ended,
and the arguments that are left. -/
structure State where
  chunks : List (List UInt8) := []
  problems : List Problem := []
  ended : Bool := false
  invalid : Bool := false
  args : List String
  used : Bool := false

def State.put (s : State) (bs : List UInt8) : State := { s with chunks := bs :: s.chunks }

def State.next (s : State) : String × State :=
  match s.args with
  | [] => ("", s)
  | a :: rest => (a, { s with args := rest, used := true })

def State.note (s : State) (p : Option Problem) : State :=
  { s with problems := p.toList ++ s.problems }

def State.number (s : State) : Option (Option Nat) → Option Int × State
  | none => (none, s)
  | some (some n) => (some n, s)
  | some none =>
    let (a, s) := s.next
    let (n, e) := signedOf a
    (some n, s.note e)

/-- Writes one argument under a directive; false if there is no such directive. -/
def State.write (s : State) (d : Directive) : State × Bool :=
  let l := Layout.ofFlags d.flags
  let (width, s) := s.number d.width
  let (precision, s) := s.number d.precision
  let l := width.elim l l.withWidth
  let l := precision.elim l l.withPrecision
  let (a, s) := s.next
  match d.letter with
  | 's' => (s.put (l.text (Octets.ofText a)), true)
  | 'b' =>
    let (bs, ended) := unescape 0 a.toList
    ({ s.put (l.text bs) with ended }, true)
  | 'c' => (s.put (l.byte ((Octets.ofText a).headD 0)), true)
  | c =>
    if c == 'd' || c == 'i' then
      let (n, e) := signedOf a
      ((s.put (l.integer n)).note e, true)
    else if ['o', 'u', 'x', 'X'].contains c then
      let (n, e) := naturalOf a
      ((s.put (l.natural c n)).note e, true)
    else if ['a', 'e', 'f', 'g'].contains c.toLower then
      let (x, e) := doubleOf a
      ((s.put (l.floating c x)).note e, true)
    else (s, false)

/-- Writes a format once; `fuel` bounds its length. -/
def once : Nat → State → List Char → State
  | 0, s, _ => s
  | _, s, [] => s
  | fuel + 1, s, '\\' :: rest =>
    match escape? false rest with
    | some (b, n) => once fuel (s.put [b]) (rest.drop n)
    | none => once fuel (s.put [92]) rest
  | fuel + 1, s, '%' :: '%' :: rest => once fuel (s.put [37]) rest
  | fuel + 1, s, '%' :: rest =>
    match directive? rest with
    | none => { s with invalid := true }.note (some .noLetter)
    | some (d, after) =>
      let (written, known) := s.write d
      if known then if written.ended then written else once fuel written after
      else
        let shown := "%" ++ String.ofList (rest.take (rest.length - after.length))
        { s with invalid := true }.note (some (.invalidDirective shown))
  | fuel + 1, s, c :: rest => once fuel (s.put (Octets.charBytes c)) rest

def repeated : Nat → State → List Char → State
  | 0, s, _ => s
  | fuel + 1, s, cs =>
    let s := once (cs.length + 1) { s with used := false } cs
    if s.ended || s.invalid || s.args.isEmpty || !s.used then s else repeated fuel s cs

def print (format : String) (args : List String) : List UInt8 × List Problem × Nat :=
  let s := repeated (args.length + 1) { args } format.toList
  (s.chunks.reverse.flatten, s.problems.reverse,
    if s.invalid then 2 else if s.problems.isEmpty then 0 else 1)

end JobMatrix.Shell.Format
