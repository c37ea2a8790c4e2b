import TokenInventory.Calendar.Spelling

/-!
# Ages

An age is a number of hours, days or years such as `10h`, `7d` or `2y`; a year counts as 365 days.
The number is at most one hundred thousand.
-/

namespace TokenInventory

/-- The unit of an age. -/
inductive AgeUnit
  | hours
  | days
  | years
  deriving DecidableEq, Repr

namespace AgeUnit

/-- The letter of a unit. -/
def letter : AgeUnit → Char
  | hours => 'h'
  | days => 'd'
  | years => 'y'

/-- The unit with a letter. -/
def ofLetter? : Char → Option AgeUnit
  | 'h' => some hours
  | 'd' => some days
  | 'y' => some years
  | _ => none

/-- The hours of a unit. -/
def inHours : AgeUnit → Nat
  | hours => 1
  | days => 24
  | years => 24 * 365

end AgeUnit

/-- The largest number of units of an age. -/
def maxAge : Nat :=
  100000

/-- A span of time before now. -/
structure Age where
  amount : Nat
  unit : AgeUnit
  amount_le : amount ≤ maxAge
  deriving DecidableEq

namespace Age

/-- The age in hours. -/
def hours (age : Age) : Nat :=
  age.amount * age.unit.inHours

/-- Reads an age: a number and the letter of its unit. -/
def ofText? (s : List Char) : Option Age :=
  let s := Text.trim s
  match s.getLast?.bind AgeUnit.ofLetter?, Text.readInt64 s.dropLast with
  | some unit, some n =>
    if h : 0 ≤ n.toInt ∧ n.toInt.toNat ≤ maxAge then some ⟨n.toInt.toNat, unit, h.2⟩ else none
  | _, _ => none

/-- The age as it is read. -/
def text (age : Age) : String :=
  Text.ofNat age.amount ++ age.unit.letter.toString

/-- Whether an instant is less than this age before `now`; `none` if the instant that much later is
outside the calendar. -/
def isNewer? (age : Age) (instant now : Instant) : Option Bool :=
  (instant.addHours? age.hours).map fun limit => now.isBefore limit

end Age

end TokenInventory
