import JobMatrix.Number.Leading
import JobMatrix.Host.Program.Amount
import JobMatrix.Host.Program.Calendar
import JobMatrix.Host.Program.Options

/-! Dates: their texts under a format, the texts that name them, and the program that shows them. -/

namespace JobMatrix.Program

namespace DateFormat

structure Layout where
  /-- How numbers are filled up: with zeros, blanks, or not at all. -/
  filler : Option Char := none
  upper : Bool := false
  swaps : Bool := false
  width : Option Nat := none
  colons : Nat := 0

def number (l : Layout) (width : Nat) (filler : Char) (n : Int) : String :=
  let filler := l.filler.getD filler
  let digits := toString n.natAbs
  let width := if filler == '-' then 0 else l.width.getD width
  let sign := if n < 0 then "-" else ""
  let gap := width - (sign.length + digits.length)
  let fill := if filler == '-' then "" else String.ofList (List.replicate gap filler)
  if filler == '0' then sign ++ fill ++ digits else fill ++ sign ++ digits

def word (l : Layout) (s : String) : String :=
  let s := if l.upper || l.swaps then s.map Char.toUpper else s
  let filler := match l.filler with | some '0' => '0' | _ => ' '
  if l.filler == some '-' then s else padLeft (l.width.getD 0) s filler

def hourOfTwelve (h : Nat) : Nat := if h % 12 == 0 then 12 else h % 12

def compound? (c : Char) : Option String :=
  match c with
  | 'c' => some "%a %b %e %H:%M:%S %Y"
  | 'D' => some "%m/%d/%y"
  | 'F' => some "%Y-%m-%d"
  | 'r' => some "%I:%M:%S %p"
  | 'R' => some "%H:%M"
  | 'T' => some "%H:%M:%S"
  | 'x' => some "%m/%d/%y"
  | 'X' => some "%H:%M:%S"
  | _ => none

def simple? (m : Stamp) (l : Layout) (c : Char) : Option String :=
  let num (width : Nat) (n : Int) : Option String := some (number l width '0' n)
  let blank (width : Nat) (n : Int) : Option String := some (number l width ' ' n)
  let short (s : String) : String := String.ofList (s.toList.take 3)
  match c with
  | '%' => some "%"
  | 'n' => some "\n"
  | 't' => some "\t"
  | 'a' => some (word l (short m.weekdayName))
  | 'A' => some (word l m.weekdayName)
  | 'b' => some (word l (short m.monthName))
  | 'h' => some (word l (short m.monthName))
  | 'B' => some (word l m.monthName)
  | 'C' => num 2 (m.year / 100)
  | 'd' => num 2 m.day
  | 'e' => blank 2 m.day
  | 'g' => num 2 (m.isoWeek.1 % 100)
  | 'G' => num 4 m.isoWeek.1
  | 'H' => num 2 m.hour
  | 'I' => num 2 (hourOfTwelve m.hour)
  | 'j' => num 3 (m.yearday + 1)
  | 'k' => blank 2 m.hour
  | 'l' => blank 2 (hourOfTwelve m.hour)
  | 'm' => num 2 m.month
  | 'M' => num 2 m.minute
  | 'N' =>
    let digits := padLeft 9 (toString m.nanosecond) '0'
    some (String.ofList (digits.toList.take (l.width.getD 9)))
  | 'p' =>
    let s := if m.hour < 12 then "AM" else "PM"
    some (word { l with swaps := false } (if l.swaps then s.map Char.toLower else s))
  | 'P' => some (word l (if m.hour < 12 then "am" else "pm"))
  | 'q' => num 1 ((m.month - 1) / 3 + 1)
  | 's' => num 1 m.seconds
  | 'S' => num 2 m.second
  | 'u' => num 1 (if m.weekday == 0 then 7 else m.weekday)
  | 'U' => num 2 (m.week 0)
  | 'V' => num 2 m.isoWeek.2
  | 'w' => num 1 m.weekday
  | 'W' => num 2 (m.week 1)
  | 'y' => num 2 (m.year % 100)
  | 'Y' => num 4 m.year
  | 'z' =>
    some (match l.colons with
      | 0 => "+0000"
      | 1 => "+00:00"
      | 2 => "+00:00:00"
      | _ => "+00")
  | 'Z' => some (if l.swaps then "utc" else word { l with upper := true } "UTC")
  | _ => none

def flags (l : Layout) : List Char → Layout × List Char
  | '_' :: r => flags { l with filler := some ' ' } r
  | '-' :: r => flags { l with filler := some '-' } r
  | '0' :: r => flags { l with filler := some '0' } r
  | '+' :: r => flags l r
  | '^' :: r => flags { l with upper := true } r
  | '#' :: r => flags { l with swaps := true } r
  | r => (l, r)

/-- A part after its percent sign: its text and what follows, none if there is no such part. -/
def part? (m : Stamp) (inner : List Char → String) (cs : List Char) :
    Option (String × List Char) :=
  let (l, rest) := flags {} cs
  let digits := rest.takeWhile Char.isDigit
  let l := if digits.isEmpty then l else { l with width := some (Number.natOfDigits digits) }
  let rest := rest.drop digits.length
  let rest := match rest with
    | 'E' :: r => r
    | 'O' :: r => r
    | r => r
  let colons := (rest.takeWhile (· == ':')).length
  match rest.drop colons with
  | c :: rest =>
    match compound? c with
    | some format => some (word { l with filler := none } (inner format.toList), rest)
    | none => (simple? m { l with colons } c).map fun s => (s, rest)
  | [] => none

/-- The text of a moment under a format; compound parts nest `depth` deep. -/
def text (m : Stamp) : Nat → Nat → List Char → String
  | _, 0, _ => ""
  | _, _, [] => ""
  | depth, fuel + 1, '%' :: rest =>
    let inner (cs : List Char) : String := match depth with
      | 0 => ""
      | d + 1 => text m d (8 * cs.length + 8) cs
    match part? m inner rest with
    | some (s, after) => s ++ text m depth fuel after
    | none => "%" ++ text m depth fuel rest
  | depth, fuel + 1, c :: rest => String.singleton c ++ text m depth fuel rest
termination_by depth fuel _ => (depth, fuel)

end DateFormat

def Stamp.format (m : Stamp) (format : String) : String :=
  DateFormat.text m 2 (format.length + 1) format.toList

namespace DateText

def numbers? (divider : String) (s : String) : Option (List Nat) := (s.splitOn divider).mapM plainNumber?

def yearOf (digits : List Char) : Nat :=
  let n := Number.natOfDigits digits
  if digits.length ≤ 2 then (if n < 69 then n + 2000 else n + 1900) else n

def moment? (year month day hour minute second : Nat) : Option Int :=
  if month == 0 || 12 < month || day == 0 || Date.daysIn year month < day || 23 < hour ||
      59 < minute || 60 < second then none
  else
    let seconds : Nat := hour * 3600 + minute * 60 + second
    some ((Stamp.dayOf year month day * 86400 + seconds) * 10 ^ 9)

/-- The moment of a number of seconds after a sign, or of a date, which a time of day may follow. -/
def read? (now : Int) (text : String) : Option Int :=
  match Text.strip text.toList with
  | '@' :: rest =>
    match Number.leading? rest with
    | some (x, []) => x.toRat?.map fun q => (q * 1000000000).floor
    | _ => none
  | cs =>
    let words := (String.ofList (cs.map fun c => if c == 'T' then ' ' else c)).splitOn " "
    match words with
    | ["now"] => some now
    | [date] => at? date "0:0"
    | [date, time] => at? date time
    | _ => none
where
  at? (date time : String) : Option Int :=
    match numbers? "-" date, numbers? ":" time with
    | some [y, m, d], some [h, minute] => moment? y m d h minute 0
    | some [y, m, d], some [h, minute, s] => moment? y m d h minute s
    | _, _ => none

/-- The moment of a number such as `[[CC]YY]MMDDhhmm[.ss]`. -/
def stamp? (now : Int) (text : String) : Option Int := do
  let cs := text.toList
  let digits := cs.takeWhile Char.isDigit
  let second ← match cs.drop digits.length with
    | [] => some 0
    | ['.', a, b] => if a.isDigit && b.isDigit then some (Number.natOfDigits [a, b]) else none
    | _ => none
  let year ← match digits.length with
    | 8 => some (Stamp.ofNanoseconds now).year
    | 10 => some (yearOf (digits.take 2))
    | 12 => some (yearOf (digits.take 4))
    | _ => none
  let rest := digits.drop (digits.length - 8)
  let pair (i : Nat) : Nat := Number.natOfDigits ((rest.drop i).take 2)
  moment? year (pair 0) (pair 2) (pair 4) (pair 6) second

end DateText

def momentOf (name text : String) : Work (Option Int) := do
  match DateText.read? (← view).now text with
  | some t => return some t
  | none =>
    complain (name ++ ": invalid date " ++ (← marked text))
    return none

namespace Date

def options : Options :=
  { letters := "d:f:I::r:Rs:u"
    long := [("date", "d"), ("debug", "debug"), ("file", "f"), ("iso-8601", "I"),
      ("reference", "r"), ("resolution", "resolution"), ("rfc-email", "R"), ("rfc-822", "R"),
      ("rfc-2822", "R"), ("rfc-3339", "rfc:"), ("set", "s"), ("uct", "u"), ("utc", "u"),
      ("universal", "u"), ("help", "help"), ("version", "version")] }

def isoFormat? (precision : String) : Option String :=
  [("date", "%Y-%m-%d"), ("hours", "%Y-%m-%dT%H%:z"), ("minutes", "%Y-%m-%dT%H:%M%:z"),
   ("seconds", "%Y-%m-%dT%H:%M:%S%:z"), ("ns", "%Y-%m-%dT%H:%M:%S,%N%:z")].lookup precision

def plainFormat? (precision : String) : Option String :=
  [("date", "%Y-%m-%d"), ("seconds", "%Y-%m-%d %H:%M:%S%:z"),
   ("ns", "%Y-%m-%d %H:%M:%S.%N%:z")].lookup precision

def formatOf (cs : List Choice) (words : List String) : Option String :=
  match words.find? (·.startsWith "+") with
  | some w => some (String.ofList (w.toList.drop 1))
  | none =>
    if has cs "R" then some "%a, %d %b %Y %H:%M:%S %z"
    else if has cs "I" then isoFormat? ((lastOf? cs "I").getD "date")
    else match lastOf? cs "rfc" with
      | some p => plainFormat? p
      | none => some "%a %b %e %H:%M:%S %Z %Y"

end Date

def date (args : List String) : Work Nat :=
  Date.options.within "date" args fun cs words => do
    let v ← view
    match words.find? fun w => !w.startsWith "+" with
    | some w =>
      if has cs "d" then
        misuse "date" ("date: the argument " ++ (← marked w) ++ " lacks a leading '+';\n" ++
          "when using an option to specify date(s), any non-option\n" ++
          "argument must be a format string beginning with '+'")
      else refuse ("date: invalid date " ++ (← marked w))
    | none =>
      match words with
      | _ :: extra :: _ => extraOperand "date" extra
      | _ =>
        let moment : Work (Option Int) := match lastOf? cs "d", lastOf? cs "r" with
          | some text, _ => momentOf "date" text
          | none, some path =>
            match v.lookup path with
            | .ok (_, e) => pure (some e.time)
            | .error e => do
              complain ("date: " ++ (← named path) ++ ": " ++ e.reason)
              return none
          | none, none => pure (some v.now)
        match ← moment, Date.formatOf cs words with
        | some t, some format =>
          sayLine (Stamp.format (.ofNanoseconds t) format)
          return 0
        | some _, none =>
          misuse "date" ("date: invalid argument " ++ (← marked ((lastOf? cs "I").getD "")) ++
            " for '--iso-8601'")
        | none, _ => return 1

end JobMatrix.Program
