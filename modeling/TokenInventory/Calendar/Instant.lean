import TokenInventory.Calendar.Date
import TokenInventory.Text.Decimal

/-!
# Clock readings and instants

A reading is a date and a time of day without a place. An instant is a point in time: seconds since
the beginning of 1970 in universal time, and nanoseconds. A leap second is kept as second 59 with a
billion nanoseconds or more, and instants are ordered by their seconds first.
-/

namespace TokenInventory

/-- The number of seconds of a day. -/
def secondsPerDay : Int :=
  86400

/-- A date and a time of day. -/
structure Reading where
  date : Date
  secondOfDay : Nat
  nanosecond : Nat
  deriving DecidableEq

namespace Reading

/-- The midnight that begins a date. -/
def midnight (date : Date) : Reading :=
  ⟨date, 0, 0⟩

/-- The seconds from 1 January 1970, 00:00 to this reading, on one clock. -/
def seconds (r : Reading) : Int :=
  r.date.dayNumber * secondsPerDay + r.secondOfDay

end Reading

/-- A point in time. -/
structure Instant where
  seconds : Int
  nanosecond : Nat
  deriving DecidableEq, Repr

namespace Instant

/-- Whether a number of seconds lies on a day of the calendar. -/
def inCalendar (seconds : Int) : Bool :=
  firstDay * secondsPerDay ≤ seconds && seconds < (lastDay + 1) * secondsPerDay

/-- The instant with the given seconds, if it lies in the calendar. -/
def ofSeconds? (seconds : Int) (nanosecond : Nat) : Option Instant :=
  if inCalendar seconds then some ⟨seconds, nanosecond⟩ else none

/-- Whether one instant is strictly earlier than another. -/
def isBefore (a b : Instant) : Bool :=
  a.seconds < b.seconds || (a.seconds == b.seconds && a.nanosecond < b.nanosecond)

/-- The instant a number of hours later, if it lies in the calendar. A leap second that is left
counts as the second before it. -/
def addHours? (a : Instant) (hours : Nat) : Option Instant :=
  let nanosecond :=
    if 0 < hours ∧ 1000000000 ≤ a.nanosecond then a.nanosecond - 1000000000 else a.nanosecond
  ofSeconds? (a.seconds + 3600 * hours) nanosecond

/-- A number with at least the given count of digits. -/
def padded (width n : Nat) : String :=
  let digits := Nat.toDigits 10 n
  String.ofList (List.replicate (width - digits.length) '0' ++ digits)

/-- The instant in universal time, with microseconds, as log lines show it. -/
def timestamp (a : Instant) : String :=
  let day := a.seconds / secondsPerDay
  let second := (a.seconds % secondsPerDay).toNat
  let (year, month, dayOfMonth) := numbersOfDay day
  padded 4 year.toNat ++ "-" ++ padded 2 month ++ "-" ++ padded 2 dayOfMonth ++ "T" ++
    padded 2 (second / 3600) ++ ":" ++ padded 2 (second / 60 % 60) ++ ":" ++
    padded 2 (second % 60) ++ "." ++ padded 6 (a.nanosecond / 1000) ++ "Z"

end Instant

end TokenInventory
