import JobMatrix.Number.Layout
import JobMatrix.Host.Program.Lines

/-! Sequences of numbers, from a first by equal steps to a last, and how each of them is written. -/

namespace JobMatrix.Program

namespace Sequence

/-- A number as it was given: its value, none if it has no bound, the width of its text, and how many
places it has, none if that cannot be told. -/
structure Operand where
  value : Option Rat
  negative : Bool := false
  width : Int := 0
  places : Option Nat := some 0

inductive Problem where
  | notNumber (text : String)
  | undefined (text : String)
  | zeroStep (text : String)

def measured (text : List Char) : Int × Nat :=
  let point := text.findIdx (· == '.')
  let fraction := if point < text.length then
      some ((text.drop (point + 1)).takeWhile fun c => c.toLower != 'e') else none
  let places := (fraction.map List.length).getD 0
  let width : Int := text.length
  let width := match fraction with
    | none => width
    | some [] => width - 1
    | some _ => if ((text.take point).getLast?.map Char.isDigit).getD false then width else width + 1
  let mantissa := text.takeWhile fun c => c.toLower != 'e'
  if mantissa.length == text.length then (width, places)
  else
    let e := (String.ofList ((text.drop (mantissa.length + 1)).filter (· != '+'))).toInt?.getD 0
    let width := width - (text.length - mantissa.length)
    if e < 0 then
      let width := match fraction with
        | some [] => width + 1
        | some _ => width
        | none => width + 1
      (width + -e, places + e.natAbs)
    else (width + e, places - min places e.toNat)

def operand (text : String) : Except Problem Operand :=
  match Number.whole? text with
  | none => .error (.notNumber text)
  | some .undefined => .error (.undefined text)
  | some (.infinite negative) => .ok { value := none, negative }
  | some x =>
    let cs := text.toList.dropWhile fun c => Number.isSpace c || c == '+'
    let value := x.toRat?
    let isHex := cs.any fun c => c == 'x' || c == 'X'
    if isHex then .ok { value, places := if cs.any fun c => c == '.' || c == 'p' then none else some 0 }
    else
      let (width, places) := measured cs
      .ok { value, width, places := some places }

structure Style where
  layout : Layout := {}
  letter : Char := 'f'
  before : String := ""
  after : String := ""

inductive Misformat where
  | none
  | ends
  | unknown (c : Char)
  | many

def Misformat.text : Misformat → String
  | none => " has no % directive"
  | ends => " ends in %"
  | unknown c => " has unknown %" ++ String.singleton c ++ " directive"
  | many => " has too many % directives"

def plain : List Char → List Char × List Char
  | '%' :: '%' :: rest =>
    let (text, rest) := plain rest
    ('%' :: text, rest)
  | '%' :: rest => ([], '%' :: rest)
  | c :: rest =>
    let (text, rest) := plain rest
    (c :: text, rest)
  | [] => ([], [])

def Style.read (format : String) : Except Misformat Style := do
  let (before, rest) := plain format.toList
  if rest.isEmpty then throw .none
  let rest := rest.drop 1
  let flags := rest.takeWhile fun c => "-+#0 '".toList.contains c
  let rest := rest.drop flags.length
  let width := rest.takeWhile Char.isDigit
  let rest := rest.drop width.length
  let hasPoint := rest.head? == some '.'
  let precision := if hasPoint then (rest.drop 1).takeWhile Char.isDigit else []
  let rest := if hasPoint then rest.drop (precision.length + 1) else rest
  let rest := if rest.head? == some 'L' then rest.drop 1 else rest
  match rest with
  | [] => throw .ends
  | c :: rest =>
    if !"efgaEFGA".toList.contains c then throw (.unknown c)
    let (after, rest) := plain rest
    if !rest.isEmpty then throw .many
    let layout := { Layout.ofFlags flags with
      width := Number.natOfDigits width
      precision := if hasPoint then some (Number.natOfDigits precision) else Option.none }
    return { layout, letter := c, before := String.ofList before, after := String.ofList after }

def Style.fitting (first step last : Operand) (equal : Bool) : Style :=
  match first.places, step.places, last.places with
  | some p, some q, some r =>
    let places := max p q
    let width : Int :=
      let ofFirst := first.width + (places - p : Nat) + (if p == 0 && places != 0 then 1 else 0)
      let ofLast := last.width + ((places : Int) - r) + (if r != 0 && places == 0 then -1 else 0) +
        (if r == 0 && places != 0 then 1 else 0)
      max ofFirst ofLast
    { layout := { precision := some places, zeros := equal
                  width := if equal then width.toNat else 0 } }
  | _, _, _ => { letter := 'g' }

def extended (q : Rat) : Double := .nearest 64 (q < 0) q.num.natAbs q.den

def Style.body (s : Style) (q : Rat) : List UInt8 :=
  let places := s.layout.precision.getD 6
  let scaled := q * (10 ^ places : Nat)
  if s.letter == 'f' && scaled.den == 1 then
    let ds := Nat.toDigits 10 scaled.num.natAbs
    let ds := List.replicate (places + 1 - ds.length) '0' ++ ds
    let whole := ds.take (ds.length - places)
    let fraction := if places == 0 then (if s.layout.alternate then ['.'] else [])
      else '.' :: ds.drop (ds.length - places)
    s.layout.fill s.layout.zeros (Octets.ofText (s.layout.sign (q < 0)))
      (Octets.ofChars (whole ++ fraction))
  else s.layout.floating s.letter (extended q) true

def Style.text (s : Style) (q : Rat) : List UInt8 :=
  Octets.ofText s.before ++ s.body q ++ Octets.ofText s.after

def Style.shown? (s : Style) (q : Rat) : Option Rat :=
  (Number.whole? (Octets.text (s.body q))).bind (·.toRat?)

/-- Numbers from one on, at most so many, each after a separator: what is written, the latest first,
and the next number if there is one. -/
def piece (s : Style) (separator : List UInt8) (step : Rat) (last : Option Rat) :
    Nat → Rat → List (List UInt8) → List (List UInt8) × Option Rat
  | 0, x, out => (out, some x)
  | n + 1, x, out =>
    let isBeyond := last.elim false fun l => if step < 0 then x < l else l < x
    if isBeyond then
      let isExtra := s.shown? x == last && s.text x != s.text (x - step)
      (if isExtra then s.text x :: separator :: out else out, none)
    else piece s separator step last n (x + step) (s.text x :: separator :: out)

def write (s : Style) (separator : List UInt8) (step : Rat) (last : Option Rat) :
    Nat → Option Rat → Work Unit
  | 0, _ => return ()
  | _, none => return ()
  | fuel + 1, some x => do
    let (out, next) := piece s separator step last 500 x []
    say out.reverse.flatten
    write s separator step last fuel next

def writeAll (s : Style) (separator : String) (first step : Rat) (last : Operand) : Work Unit := do
  let isEmpty : Bool := match last.value with
    | some l => if step < 0 then first < l else l < first
    | none => (step < 0) != last.negative
  if isEmpty then return ()
  say (s.text first)
  write s (Octets.ofText separator) step last.value rounds (some (first + step))
  sayText "\n"

def isNegative (word : String) : Bool :=
  match word.toList with
  | '-' :: c :: _ => c == '.' || c.isDigit
  | _ => false

def parted : List String → List String × List String
  | [] => ([], [])
  | w :: rest =>
    if isNegative w then ([], w :: rest)
    else if w == "--" then ([w], rest)
    else if !w.startsWith "-" || w == "-" then ([], w :: rest)
    else
      let takesNext := (w.endsWith "f" || w.endsWith "s") && !w.startsWith "--" && w.length == 2 ||
        (w.startsWith "--" && !w.toList.contains '=' &&
          ("--format".startsWith w || "--separator".startsWith w))
      match takesNext, rest with
      | true, a :: rest =>
        let (options, operands) := parted rest
        (w :: a :: options, operands)
      | _, rest =>
        let (options, operands) := parted rest
        (w :: options, operands)

def operands (words : List String) : Except Problem (Operand × Operand × Operand) := do
  let one : Operand := { value := some 1, width := 1 }
  match words with
  | [last] => return (one, one, ← operand last)
  | [first, last] => return (← operand first, one, ← operand last)
  | first :: step :: last :: _ =>
    let first ← operand first
    let read ← operand step
    if read.value == some 0 then throw (.zeroStep step)
    return (first, read, ← operand last)
  | [] => return (one, one, one)

end Sequence

def seq (args : List String) : Work Nat :=
  let options : Options :=
    { letters := "f:s:w", long := [("equal-width", "w"), ("format", "f"), ("separator", "s")] ++
        [("help", "help"), ("version", "version")] }
  let (before, words) := Sequence.parted args
  options.within "seq" before fun cs _ => do
    let misuse (text : String) : Work Nat := misuse "seq" ("seq: " ++ text)
    match words, words.drop 3 with
    | [], _ => misuse "missing operand"
    | _, w :: _ => extraOperand "seq" w
    | words, [] =>
      let format := lastOf? cs "f"
      match format.map Sequence.Style.read with
      | some (.error e) => refuse ("seq: format " ++ (← marked (format.getD "")) ++ e.text)
      | style =>
        if style.isSome && has cs "w" then
          return ← misuse "format string may not be specified when printing equal width strings"
        match Sequence.operands words with
        | .error (.notNumber s) => misuse ("invalid floating point argument: " ++ (← marked s))
        | .error (.undefined s) =>
          misuse ("invalid " ++ (← marked "not-a-number") ++ " argument: " ++ (← marked s))
        | .error (.zeroStep s) => misuse ("invalid Zero increment value: " ++ (← marked s))
        | .ok (first, step, last) =>
          let style := match style with
            | some (.ok s) => s
            | _ => Sequence.Style.fitting first step last (has cs "w")
          match first.value, step.value with
          | some a, some b =>
            Sequence.writeAll style ((lastOf? cs "s").getD "\n") a b last
            return 0
          | _, _ => return 0

end JobMatrix.Program
