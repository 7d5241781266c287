import JobMatrix.Host.Program.Options
import JobMatrix.Host.Shell.Format

/-! Programs that print their words: as they are, or by a format. -/

namespace JobMatrix.Program

open Shell.Format (isOctal)

namespace Print

inductive Escape where
  | bytes (data : List UInt8)
  /-- A character by its number, which may have no bytes. -/
  | char (code : Nat)
  /-- The end of all output. -/
  | stop
  | noDigits
  | noCharacter (letter : Char) (digits : List Char)

def hexDigits (most : Nat) (cs : List Char) : List Char :=
  (cs.take most).takeWhile fun c => (Number.hexDigit? c).isSome

/-- The escape after a backslash, and the characters that it takes. A zero before octal digits is not
counted if `leading`. -/
def escape (leading : Bool) (cs : List Char) : Escape × Nat :=
  match cs with
  | [] => (.bytes [92], 0)
  | 'c' :: _ => (.stop, 1)
  | '"' :: _ => (.bytes [34], 1)
  | 'x' :: rest =>
    let ds := hexDigits 2 rest
    if ds.isEmpty then (.noDigits, 1)
    else (.bytes [UInt8.ofNat (Number.natOfHex ds)], ds.length + 1)
  | c :: rest =>
    if c == 'u' || c == 'U' then
      let most := if c == 'u' then 4 else 8
      let ds := hexDigits most rest
      let n := Number.natOfHex ds
      if ds.length < most then (.noDigits, 1)
      else if (n < 0xA0 && n != 0x24 && n != 0x40 && n != 0x60) || (0xD800 ≤ n && n ≤ 0xDFFF) then
        (.noCharacter c ds, most + 1)
      else (.char n, most + 1)
    else match Shell.Format.escape? leading cs with
      | some (b, n) => (.bytes [b], n)
      | none => (.bytes (92 :: Octets.charBytes c), 1)

/-- What has been written, the latest first, the arguments that are left, and whether some were
bad. -/
structure State where
  chunks : List (List UInt8) := []
  args : List String
  used : Bool := false
  complaints : List String := []
  failed : Bool := false
  ended : Bool := false
  /-- Whether characters beyond the first 128 have bytes of their own. -/
  wide : Bool

namespace State

def put (s : State) (data : List UInt8) : State := { s with chunks := data :: s.chunks }

def next (s : State) : String × State :=
  match s.args with
  | [] => ("", s)
  | a :: rest => (a, { s with args := rest, used := true })

def note (s : State) (text : String) : State :=
  { s with complaints := text :: s.complaints, failed := true }

def abandon (s : State) (text : String) : State := { s.note text with ended := true }

def mark (s : State) (a : String) : String := Quoting.marked s.wide a

def escaped (s : State) (leading : Bool) (cs : List Char) : State × Nat :=
  let (e, n) := escape leading cs
  match e with
  | .bytes data => (s.put data, n)
  | .char code =>
    if s.wide || code < 128 then (s.put (Octets.charBytes (Char.ofNat code)), n)
    else
      let ds := (Nat.toDigits 16 code).map Char.toUpper
      let width := if code < 0x10000 then 4 else 8
      let lead := if code < 0x10000 then "\\u" else "\\U"
      (s.put (Octets.ofText (lead ++ String.ofList (List.replicate (width - ds.length) '0' ++ ds))), n)
  | .stop => ({ s with ended := true }, n)
  | .noDigits => (s.abandon "missing hexadecimal number in escape", n)
  | .noCharacter letter ds =>
    (s.abandon ("invalid universal character name \\" ++ String.ofList (letter :: ds)), n)

/-- Writes a text with its escapes replaced; `skip` characters belong to an escape that has been
written. -/
def unescaped (s : State) (skip : Nat) : List Char → State
  | [] => s
  | c :: rest =>
    if s.ended then s
    else match skip with
      | n + 1 => unescaped s n rest
      | 0 =>
        if c != '\\' then unescaped (s.put (Octets.charBytes c)) 0 rest
        else
          let (s, n) := s.escaped true rest
          unescaped s n rest

def checked (s : State) (a : String) (start : Bool) (rest : List Char) (fits : Bool) : State :=
  if !fits then s.note (s.mark a ++ ": Numerical result out of range")
  else if rest.isEmpty then s
  else if start then s.note (s.mark a ++ ": expected a numeric value")
  else s.note (s.mark a ++ ": value not completely converted")

/-- The code of the character after a quote; what follows it is not looked at. -/
def code? (s : State) (a : String) : Option (Nat × State) :=
  match a.toList with
  | q :: c :: rest =>
    if q != '\'' && q != '"' then none
    else
      let (n, rest) := if s.wide then (c.toNat, rest)
        else (((Octets.charBytes c).headD 0).toNat,
          Octets.chars ((Octets.charBytes c).drop 1) ++ rest)
      let s := if rest.isEmpty then s
        else { s with complaints := ("warning: " ++ String.ofList rest ++
          ": character(s) following character constant have been ignored") :: s.complaints }
      some (n, s)
  | _ => none

def whole (s : State) (least greatest : Int) (a : String) : Int × State :=
  match s.code? a with
  | some (n, s) => (n, s)
  | none =>
    match Number.wholeWith? a.toList with
    | none => (0, s.checked a true a.toList true)
    | some (n, rest) =>
      (max least (min greatest n), s.checked a false rest (least ≤ n && n ≤ greatest))

def long (s : State) (a : String) : Int × State :=
  s.whole Shell.Format.leastLong Shell.Format.greatestLong a

/-- A number without a sign from an argument; one below zero wraps around. -/
def natural (s : State) (a : String) : Nat × State :=
  let w := Shell.Format.greatestWord
  let (n, s) := s.whole (-w) w a
  ((Int.emod n (w + 1)).toNat, s)

def fraction (s : State) (a : String) : Double × State :=
  match s.code? a with
  | some (n, s) => (.nearest 64 false n 1, s)
  | none =>
    match Number.leading? a.toList with
    | none => (.finite false 0 0, s.checked a true a.toList true)
    | some (x, rest) => (x.toExtended, s.checked a false rest true)

def count (s : State) : Option (Option Nat) → Option Int × State
  | none => (none, s)
  | some (some n) => (some n, s)
  | some none =>
    if s.args.isEmpty then (some 0, s)
    else
      let (a, s) := s.next
      let (n, s) := s.long a
      (some n, s)

def allowed (flags : List Char) (precise : Bool) : List Char :=
  let without (f : Char) (gone : List Char) (cs : List Char) : List Char :=
    if flags.contains f then cs.filter fun c => !gone.contains c else cs
  let all := ['a', 'A', 'c', 'd', 'e', 'E', 'f', 'F', 'g', 'G', 'i', 'o', 's', 'u', 'x', 'X']
  let all := without '\'' ['a', 'A', 'c', 'e', 'E', 'o', 's', 'x', 'X'] all
  let all := without 'I' ['a', 'A', 'c', 'e', 'E', 'o', 's', 'x', 'X'] all
  let all := without '#' ['c', 'd', 'i', 's', 'u'] all
  let all := without '0' ['c', 's'] all
  if precise then all.filter (· != 'c') else all

def argument (s : State) (l : Layout) (letter : Char) : State :=
  let (a, s) := s.next
  match letter with
  | 's' => s.put (l.text (Octets.ofText a))
  | 'c' => s.put (l.byte ((Octets.ofText a).headD 0))
  | c =>
    if c == 'd' || c == 'i' then
      let (n, s) := s.long a
      s.put (l.integer n)
    else if ['o', 'u', 'x', 'X'].contains c then
      let (n, s) := s.natural a
      s.put (l.natural c n)
    else
      let (x, s) := s.fraction a
      s.put (l.floating c x true)

/-- Writes an argument under the directive after a percent sign: the state after it, and what
follows the directive. -/
def directive (s : State) (cs : List Char) : State × List Char :=
  match cs with
  | '%' :: rest => (s.put [37], rest)
  | 'b' :: rest =>
    let (a, s) := s.next
    (s.unescaped 0 a.toList, rest)
  | 'q' :: rest =>
    let (a, s) := s.next
    (s.put (Octets.ofText (Quoting.forShell s.wide a)), rest)
  | _ =>
    let isFlag (c : Char) : Bool := Shell.Format.isFlag c || c == '\'' || c == 'I'
    let flags := cs.takeWhile isFlag
    let (width, rest) := Shell.Format.count? (cs.drop flags.length)
    let (precision, rest) := match rest with
      | '.' :: rest =>
        let (p, rest) := Shell.Format.count? rest
        (some (p.getD (some 0)), rest)
      | rest => (none, rest)
    let rest := rest.dropWhile fun c => ['l', 'L', 'h', 'j', 't', 'z'].contains c
    let (width, s) := s.count width
    let (precision, s) := s.count precision
    let letter := rest.headD ' '
    if rest.isEmpty || !(allowed flags precision.isSome).contains letter then
      let shown := "%" ++ String.ofList (cs.take (cs.length - rest.length + 1))
      (s.abandon (shown ++ ": invalid conversion specification"), [])
    else
      let l := Layout.ofFlags flags
      let l := width.elim l l.withWidth
      let l := precision.elim l l.withPrecision
      (s.argument l letter, rest.drop 1)

/-- Writes a format once; `fuel` bounds its length. -/
def once : Nat → State → List Char → State
  | 0, s, _ => s
  | fuel + 1, s, cs =>
    if s.ended then s
    else match cs with
      | [] => s
      | '\\' :: rest =>
        let (s, n) := s.escaped false rest
        once fuel s (rest.drop n)
      | '%' :: rest =>
        let (s, rest) := s.directive rest
        once fuel s rest
      | c :: rest => once fuel (s.put (Octets.charBytes c)) rest

def repeated : Nat → State → List Char → State
  | 0, s, _ => s
  | fuel + 1, s, cs =>
    let s := once (cs.length + 1) { s with used := false } cs
    if s.ended || s.args.isEmpty then s
    else if s.used then repeated fuel s cs
    else { s with complaints := ("warning: ignoring excess arguments, starting with " ++
      s.mark (s.args.headD "")) :: s.complaints }

end State

end Print

def printf (args : List String) : Work Nat := do
  let args := if args.head? == some "--" then args.drop 1 else args
  match args with
  | [] => misuse "printf" "printf: missing operand"
  | format :: rest =>
    let wide := (← view).isUtf8
    let s := Print.State.repeated (rest.length + 1) { args := rest, wide } format.toList
    say s.chunks.reverse.flatten
    forEach s.complaints.reverse fun c => complain ("printf: " ++ c)
    return codeOf !s.failed

/-- A text with the escapes of an echo replaced, and whether one ends all output; `skip` characters
belong to an escape that has been read. -/
def echoed (skip : Nat) : List Char → List UInt8 × Bool
  | [] => ([], false)
  | c :: rest =>
    match skip with
    | n + 1 => echoed n rest
    | 0 =>
      if c != '\\' then more (Octets.charBytes c) (echoed 0 rest)
      else match rest with
        | 'c' :: _ => ([], true)
        | 'x' :: ds =>
          let ds := Print.hexDigits 2 ds
          if ds.isEmpty then more [92] (echoed 0 rest)
          else more [UInt8.ofNat (Number.natOfHex ds)] (echoed (ds.length + 1) rest)
        | _ =>
          match Shell.Format.escape? true rest with
          | some (b, n) => more [b] (echoed n rest)
          | none => more [92] (echoed 0 rest)
where
  more (bs : List UInt8) (r : List UInt8 × Bool) : List UInt8 × Bool := (bs ++ r.1, r.2)

def echo (args : List String) : Work Nat := do
  let isFlag (s : String) : Bool :=
    match s.toList with
    | '-' :: c :: rest => (c :: rest).all fun c => c == 'n' || c == 'e' || c == 'E'
    | _ => false
  let flags := (args.takeWhile isFlag).flatMap fun s => s.toList.drop 1
  let text := " ".intercalate (args.dropWhile isFlag)
  let escapes := (flags.filter (· != 'n')).getLast? == some 'e'
  let (out, ended) := if escapes then echoed 0 text.toList else (Octets.ofText text, false)
  say (if flags.contains 'n' || ended then out else out ++ [10])
  return 0

end JobMatrix.Program
