import JobMatrix.Number.Double
import JobMatrix.Value.Calendar

/-! Days and times of day from a count of nanoseconds since the start of 1970, and back, in universal
time. -/

namespace JobMatrix.Program

structure Stamp where
  date : Date := ⟨1970, 1, 1⟩
  hour : Nat := 0
  minute : Nat := 0
  second : Nat := 0
  nanosecond : Nat := 0
deriving DecidableEq, Repr, Inhabited

namespace Stamp

/-- The count of a day from the start of 1970. Days beyond the end of a month belong to those after
it. -/
def dayOf (year month day : Nat) : Int := (Date.number ⟨year, month, 1⟩ : Int) + day - 1 - Date.epoch

def weekdayNames : List String :=
  ["Sunday", "Monday", "Tuesday", "Wednesday", "Thursday", "Friday", "Saturday"]

def monthNames : List String :=
  ["January", "February", "March", "April", "May", "June", "July", "August", "September", "October",
   "November", "December"]

def ofNanoseconds (n : Int) : Stamp :=
  let seconds := n.fdiv (10 ^ 9)
  let days := seconds.fdiv 86400
  let s := (seconds - days * 86400).toNat
  { date := Date.ofNumber (days + Date.epoch).toNat, hour := s / 3600, minute := s / 60 % 60
    second := s % 60, nanosecond := (n - seconds * 10 ^ 9).toNat }

def year (s : Stamp) : Nat := s.date.year

def month (s : Stamp) : Nat := s.date.month

def day (s : Stamp) : Nat := s.date.day

def dayCount (s : Stamp) : Int := (s.date.number : Int) - Date.epoch

def seconds (s : Stamp) : Int :=
  s.dayCount * 86400 + (s.hour * 3600 + s.minute * 60 + s.second : Nat)

def weekday (s : Stamp) : Nat := (s.date.weekday + 1) % 7

def yearday (s : Stamp) : Nat := s.date.dayOfYear - 1

def week (s : Stamp) (start : Nat) : Nat := (s.yearday + 7 - (s.weekday + 7 - start) % 7) / 7

def isoWeek (s : Stamp) : Nat × Nat :=
  let thursday := s.date.number - s.date.weekday + 3
  let date := Date.ofNumber thursday
  (date.year, (date.dayOfYear - 1) / 7 + 1)

def weekdayName (s : Stamp) : String := (weekdayNames[s.weekday]?).getD ""

def monthName (s : Stamp) : String := (monthNames[s.month - 1]?).getD ""

end Stamp

end JobMatrix.Program
