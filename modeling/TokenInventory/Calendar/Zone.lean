import TokenInventory.Calendar.Instant

/-!
# Time zones

A zone tells which instant a clock reading stands for: it places readings by an offset from
universal time, which may be another one for each reading. In the zones that are named, the offset
is fixed, or changes twice in every year on a day given by month, week and weekday. Where clocks are
put forward, the readings that are passed over stand for no instant, except that the change itself
is still counted with the offset before it; where clocks are put back, a reading that occurs twice
stands for the earlier instant.
-/

namespace TokenInventory

/-- A day and time at which the offset of a zone changes every year: on the given weekday of a week
of a month (week five is the last one), at a second of that day on the clock before the change. -/
structure YearlyChange where
  month : Nat
  week : Nat
  weekday : Nat
  second : Int
  deriving DecidableEq, Repr

namespace YearlyChange

/-- The number of the day of a change in a year. -/
def dayNumber (c : YearlyChange) (year : Int) : Int :=
  let first := daysToYear year + daysToMonth year c.month
  let ahead := (c.weekday + 7 - TokenInventory.weekday first) % 7
  let inMonth := ahead + 7 * (c.week - 1)
  let inMonth := if inMonth < daysInMonth year c.month then inMonth else inMonth - 7
  first + inMonth

/-- The reading of a change in a year, in seconds on the clock before it. -/
def seconds (c : YearlyChange) (year : Int) : Int :=
  c.dayNumber year * secondsPerDay + c.second

end YearlyChange

/-- Where a reading lies relative to a change of the offset. -/
inductive Side
  | before
  | skipped
  | after
  deriving DecidableEq, Repr

/-- The rule by which clock readings are placed in time. -/
structure Zone where
  /-- The offset, in seconds east of universal time, with which a reading is placed; `none` if
  clocks skip it. -/
  offset? : Reading → Option Int

namespace Zone

/-- The zone with one offset. -/
def fixed (offset : Int) : Zone where
  offset? _ := some offset

/-- Universal time. -/
def universal : Zone :=
  fixed 0

/-- Where a reading lies relative to a change at `change` that adds `gained` to the offset. -/
def side (change gained reading : Int) : Side :=
  if reading < change ∨ (reading = change ∧ 0 < gained) then .before
  else if reading < change + gained then .skipped
  else .after

/-- The zone with one offset at the turn of the year, and another between two changes. -/
def yearly (outer inner : Int) (first second : YearlyChange) : Zone where
  offset? r :=
    match side (first.seconds r.date.year) (inner - outer) r.seconds with
    | .before => some outer
    | .skipped => none
    | .after =>
      match side (second.seconds r.date.year) (outer - inner) r.seconds with
      | .before => some inner
      | .skipped => none
      | .after => some outer

/-- The instant that a reading stands for. -/
def instant? (zone : Zone) (r : Reading) : Option Instant := do
  let offset ← zone.offset? r
  Instant.ofSeconds? (r.seconds - offset) r.nanosecond

/-! ## Zone names

A zone is described by the name of its time and the hours by which it is *behind* universal time,
and for summer time by a second name and the two changes, as in `CET-1CEST,M3.5.0,M10.5.0/3`. -/

/-- Splits off the name of a time: letters, or anything between angle brackets. -/
def dropName? : List Char → Option (List Char)
  | '<' :: s => (Text.splitFirst? '>' s).map Prod.snd
  | s => if 3 ≤ (s.takeWhile Char.isAlpha).length then some (s.dropWhile Char.isAlpha) else none

/-- Reads digits at the start of a text. -/
def takeNat? (s : List Char) : Option (Nat × List Char) :=
  (Text.readNat (s.takeWhile Char.isDigit)).map fun n => (n, s.dropWhile Char.isDigit)

/-- Reads a number after a colon; zero where there is none. -/
def takeUnit (s : List Char) : Nat × List Char :=
  match s with
  | ':' :: rest => (takeNat? rest).getD (0, s)
  | _ => (0, s)

/-- Reads hours, and after colons minutes and seconds, with an optional sign; in seconds. -/
def takeTime? (s : List Char) : Option (Int × List Char) :=
  let (sign, s) : Int × List Char :=
    match s with
    | '-' :: s => (-1, s)
    | '+' :: s => (1, s)
    | s => (1, s)
  (takeNat? s).map fun (hours, s) =>
    let (minutes, s) := takeUnit s
    let (seconds, s) := takeUnit s
    (sign * (hours * 3600 + minutes * 60 + seconds : Nat), s)

/-- Reads a yearly change such as `M3.5.0/2`; without a time it is at two o'clock. -/
def takeChange? (s : List Char) : Option (YearlyChange × List Char) := do
  let s ← Text.stripPrefix? ['M'] s
  let (month, s) ← takeNat? s
  let s ← Text.stripPrefix? ['.'] s
  let (week, s) ← takeNat? s
  let s ← Text.stripPrefix? ['.'] s
  let (weekday, s) ← takeNat? s
  let (second, s) ← match s with
    | '/' :: s => takeTime? s
    | s => some (7200, s)
  if 1 ≤ month ∧ month ≤ 12 ∧ 1 ≤ week ∧ week ≤ 5 ∧ weekday ≤ 6 then
    some (⟨month, week, weekday, second⟩, s)
  else none

/-- The zone with the given description. -/
def ofDescription? (s : List Char) : Option Zone := do
  if s = ['U', 'T', 'C'] then
    return universal
  let s ← dropName? s
  let (behind, s) ← takeTime? s
  if s.isEmpty then
    return fixed (-behind)
  let s ← dropName? s
  let (summerBehind, s) ← match s with
    | ',' :: _ => some (behind - 3600, s)
    | s => takeTime? s
  let s ← Text.stripPrefix? [','] s
  let (begins, s) ← takeChange? s
  let s ← Text.stripPrefix? [','] s
  let (ends, s) ← takeChange? s
  if !s.isEmpty then
    none
  else if begins.month < ends.month then
    return yearly (-behind) (-summerBehind) begins ends
  else
    return yearly (-summerBehind) (-behind) ends begins

end Zone

end TokenInventory
