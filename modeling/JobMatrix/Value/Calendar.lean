/-! Dates and moments of the Gregorian calendar, and the numbers by which they are compared. -/

namespace JobMatrix

/-- A calendar date. -/
structure Date where
  year : Nat
  month : Nat
  day : Nat
deriving DecidableEq, Repr, Inhabited

/-- A date with a time of day and, where it is known, the offset from universal time in minutes. -/
structure Moment where
  date : Date
  hour : Nat
  minute : Nat
  second : Nat
  microsecond : Nat
  offset : Option Int
deriving DecidableEq, Repr, Inhabited

namespace Date

def isLeap (year : Nat) : Bool :=
  year % 4 == 0 && (year % 100 != 0 || year % 400 == 0)

def daysIn (year month : Nat) : Nat :=
  if month = 2 then if isLeap year then 29 else 28
  else if month = 4 ∨ month = 6 ∨ month = 9 ∨ month = 11 then 30
  else 31

def daysBefore (year : Nat) : Nat :=
  let y := year - 1
  365 * y + y / 4 - y / 100 + y / 400

def dayOfYear (d : Date) : Nat :=
  (List.range (d.month - 1)).foldl (fun n m => n + daysIn d.year (m + 1)) d.day

def number (d : Date) : Nat := daysBefore d.year + d.dayOfYear

def monthOf (year : Nat) : Nat → Nat → Nat → Nat × Nat
  | 0, month, day => (month, day)
  | left + 1, month, day =>
    if day ≤ daysIn year month then (month, day)
    else monthOf year left (month + 1) (day - daysIn year month)

def ofNumber (n : Nat) : Date :=
  let guess := n * 400 / 146097 + 1
  let year := if daysBefore (guess + 1) < n then guess + 1
    else if n ≤ daysBefore guess then guess - 1 else guess
  let (month, day) := monthOf year 11 1 (n - daysBefore year)
  ⟨year, month, day⟩

def weekday (d : Date) : Nat := (d.number + 6) % 7

/-- The number of the day from which seconds are counted, the first of 1970. -/
def epoch : Nat := 719163

end Date

namespace Moment

def clock (m : Moment) : Int :=
  (((m.date.number * 24 + m.hour) * 60 + m.minute) * 60 + m.second : Nat) * 1000000 +
    m.microsecond

/-- The microseconds of a moment since the start of the calendar, by universal time where the
offset is known. -/
def instant (m : Moment) : Int := m.clock - (m.offset.getD 0) * 60000000

def comparable (a b : Moment) : Bool := a.offset.isSome == b.offset.isSome

def same (a b : Moment) : Bool := comparable a b && a.instant == b.instant

end Moment

end JobMatrix
