/-!
# Dates

Days of the Gregorian calendar, extended to all years, and their number counted from 1 January 1970.
The calendar of the inventory reaches from the first day of year -262143 to the last day of year
262142; what lies outside is no date.
-/

namespace TokenInventory

/-- Whether a year has a 29 February. -/
def isLeapYear (year : Int) : Bool :=
  year % 4 == 0 && (year % 100 != 0 || year % 400 == 0)

/-- The number of days of a month; zero for a number that names no month. -/
def daysInMonth (year : Int) (month : Nat) : Nat :=
  match month with
  | 1 | 3 | 5 | 7 | 8 | 10 | 12 => 31
  | 4 | 6 | 9 | 11 => 30
  | 2 => if isLeapYear year then 29 else 28
  | _ => 0

/-- The number of leap years among the years up to and including `year`, counted from year 1. -/
def leapYearsUpTo (year : Int) : Int :=
  year / 4 - year / 100 + year / 400

/-- The number of days from 1 January 1970 to 1 January of a year. -/
def daysToYear (year : Int) : Int :=
  365 * (year - 1970) + (leapYearsUpTo (year - 1) - leapYearsUpTo 1969)

/-- The number of days of a year before the first of a month. -/
def daysToMonth (year : Int) (month : Nat) : Nat :=
  (List.range month).foldl (fun days m => days + daysInMonth year m) 0

/-- The earliest year of the calendar. -/
def firstYear : Int :=
  -262143

/-- The latest year of the calendar. -/
def lastYear : Int :=
  262142

/-- A day of the calendar. -/
structure Date where
  year : Int
  month : Nat
  day : Nat
  year_mem : firstYear ≤ year ∧ year ≤ lastYear
  day_mem : 1 ≤ day ∧ day ≤ daysInMonth year month
  deriving DecidableEq

namespace Date

/-- The day with the given numbers, if there is one. -/
def ofNumbers? (year : Int) (month day : Nat) : Option Date :=
  if hy : firstYear ≤ year ∧ year ≤ lastYear then
    if hd : 1 ≤ day ∧ day ≤ daysInMonth year month then some ⟨year, month, day, hy, hd⟩ else none
  else none

/-- The number of days from 1 January 1970. -/
def dayNumber (d : Date) : Int :=
  daysToYear d.year + daysToMonth d.year d.month + (d.day - 1)

end Date

/-- The number of the first day of the calendar. -/
def firstDay : Int :=
  daysToYear firstYear

/-- The number of the last day of the calendar. -/
def lastDay : Int :=
  daysToYear (lastYear + 1) - 1

/-- The day of the week, from zero for Sunday to six for Saturday. -/
def weekday (dayNumber : Int) : Nat :=
  ((dayNumber + 4) % 7).toNat

/-- Year, month and day with a given number. -/
def numbersOfDay (dayNumber : Int) : Int × Nat × Nat :=
  let guess := (dayNumber * 400) / 146097 + 1970
  let year :=
    if dayNumber < daysToYear guess then guess - 1
    else if daysToYear (guess + 1) ≤ dayNumber then guess + 1
    else guess
  let inYear := (dayNumber - daysToYear year).toNat
  let month := ((List.range 12).filter fun m => daysToMonth year (m + 1) ≤ inYear).length
  (year, month, inYear - daysToMonth year month + 1)

end TokenInventory
