import TokenInventory.Calendar.Zone

/-!
# Date formats

A format is a list of items, each of which reads something at the start of a text: a fixed
character, blanks, a numbered field, a fraction of a second or an offset from universal time. A text
has a format if the items read all of it, one after the other.

The list of accepted formats is at the end. `TokenInventory.Spelling` tries them in order.
-/

namespace TokenInventory

/-- The numbered parts of a date and time. -/
inductive Field
  | year
  /-- The last two digits of a year from 1970 to 2069. -/
  | shortYear
  | month
  | day
  | hour
  | minute
  | second
  deriving DecidableEq, Repr

/-- How many digits a number may have. -/
inductive Digits
  /-- Exactly this many, at once. -/
  | exactly (count : Nat)
  /-- From one to this many, after any blanks. -/
  | upTo (count : Nat)
  /-- From one to this many, after any blanks, or any number of them after a sign. -/
  | signed (count : Nat)
  deriving DecidableEq, Repr

/-- One item of a format. -/
inductive Item
  /-- One of the given characters. -/
  | oneOf (choices : List Char)
  /-- Any number of blanks. -/
  | blanks
  /-- The number of a field. -/
  | number (field : Field) (digits : Digits)
  /-- A point and digits, or nothing. Digits after the ninth are read and ignored. -/
  | fraction
  /-- A sign, hours, exactly one colon, minutes; or the letter `Z`. -/
  | strictOffset
  /-- A sign, hours, any colons and blanks, minutes. -/
  | offset
  deriving DecidableEq, Repr

/-- A format of dates. -/
abbrev Format : Type :=
  List Item

/-- What the items of a format have read so far. Offsets are in seconds. -/
structure Fields where
  year : Option Int := none
  month : Option Nat := none
  day : Option Nat := none
  hour : Option Nat := none
  minute : Option Nat := none
  second : Option Nat := none
  nanosecond : Nat := 0
  offset : Option Int := none
  deriving DecidableEq, Repr

namespace Fields

/-- Notes the number of a field, if that field can have it. -/
def set (f : Fields) (field : Field) (n : Int) : Option Fields :=
  match field with
  | .year => some { f with year := some n }
  | .shortYear => some { f with year := some (if n < 70 then n + 2000 else n + 1900) }
  | .month => if 1 ≤ n ∧ n ≤ 12 then some { f with month := some n.toNat } else none
  | .day => if 1 ≤ n ∧ n ≤ 31 then some { f with day := some n.toNat } else none
  | .hour => if 0 ≤ n ∧ n ≤ 23 then some { f with hour := some n.toNat } else none
  | .minute => if 0 ≤ n ∧ n ≤ 59 then some { f with minute := some n.toNat } else none
  | .second => if 0 ≤ n ∧ n ≤ 60 then some { f with second := some n.toNat } else none

/-- The date that was read. -/
def date? (f : Fields) : Option Date := do
  Date.ofNumbers? (← f.year) (← f.month) (← f.day)

/-- The date and time that were read. Second sixty is second 59 with a billion nanoseconds more. -/
def reading? (f : Fields) : Option Reading := do
  let date ← f.date?
  let hour ← f.hour
  let minute ← f.minute
  let second := f.second.getD 0
  let start := hour * 3600 + minute * 60
  if second = 60 then
    some ⟨date, start + 59, f.nanosecond + 1000000000⟩
  else
    some ⟨date, start + second, f.nanosecond⟩

/-- The instant of the date, time and offset that were read. -/
def instant? (f : Fields) : Option Instant := do
  let reading ← f.reading?
  let offset ← f.offset
  Instant.ofSeconds? (reading.seconds - offset) reading.nanosecond

end Fields

/-- At most `limit` digits at the start of a text, and the rest. -/
def takeDigits : Nat → List Char → List Char × List Char
  | 0, s => ([], s)
  | _ + 1, [] => ([], [])
  | limit + 1, c :: s =>
    if c.isDigit then
      let (digits, rest) := takeDigits limit s
      (c :: digits, rest)
    else ([], c :: s)

/-- A number of one to `limit` digits at the start of a text, and the rest. -/
def takeNumber? (limit : Nat) (s : List Char) : Option (Nat × List Char) :=
  let (digits, rest) := takeDigits limit s
  (Text.readNat digits).map fun n => (n, rest)

namespace Digits

/-- Reads a number at the start of a text. -/
def read (d : Digits) (s : List Char) : Option (Int × List Char) :=
  match d with
  | exactly count =>
    let (digits, rest) := takeDigits count s
    if digits.length = count then (Text.readNat digits).map fun n => (Int.ofNat n, rest) else none
  | upTo count => (takeNumber? count (Text.trimStart s)).map fun (n, rest) => (Int.ofNat n, rest)
  | signed count =>
    match Text.trimStart s with
    | '-' :: s => (takeNumber? s.length s).map fun (n, rest) => (-(Int.ofNat n), rest)
    | '+' :: s => (takeNumber? s.length s).map fun (n, rest) => (Int.ofNat n, rest)
    | s => (takeNumber? count s).map fun (n, rest) => (Int.ofNat n, rest)

end Digits

/-- Reads the digits of a fraction; the result is in billionths. -/
def takeFraction? (s : List Char) : Option (Nat × List Char) :=
  let (digits, rest) := takeDigits 9 s
  (Text.readNat digits).map fun n =>
    (n * Nat.pow 10 (9 - digits.length), rest.dropWhile Char.isDigit)

/-- Reads a sign: a plus, a hyphen or a minus. -/
def takeSign? : List Char → Option (Int × List Char)
  | '+' :: s => some (1, s)
  | '-' :: s => some (-1, s)
  | '−' :: s => some (-1, s)
  | _ => none

/-- Whether a character may stand between the hours and the minutes of an offset. -/
def isOffsetSeparator (c : Char) : Bool :=
  c == ':' || Text.isBlank c

/-- Reads the hours and minutes of an offset, given what skips the characters between them. -/
def takeOffset? (skip : List Char → Option (List Char)) (s : List Char) :
    Option (Int × List Char) := do
  let (sign, s) ← takeSign? s
  let (hours, s) ← (Digits.exactly 2).read s
  let s ← skip s
  let (minutes, s) ← (Digits.exactly 2).read s
  if hours ≤ 23 ∧ minutes ≤ 59 then some (sign * (hours * 3600 + minutes * 60), s) else none

namespace Item

/-- Reads an item at the start of a text. -/
def read (item : Item) (f : Fields) (s : List Char) : Option (Fields × List Char) :=
  match item with
  | oneOf choices =>
    match s with
    | c :: s => if c ∈ choices then some (f, s) else none
    | [] => none
  | blanks => some (f, Text.trimStart s)
  | number field digits => do
    let (n, s) ← digits.read s
    let f ← f.set field n
    some (f, s)
  | fraction =>
    match s with
    | '.' :: s => (takeFraction? s).map fun (n, s) => ({ f with nanosecond := n }, s)
    | s => some (f, s)
  | strictOffset =>
    match s with
    | 'Z' :: s => some ({ f with offset := some 0 }, s)
    | 'z' :: s => some ({ f with offset := some 0 }, s)
    | s =>
      (takeOffset? (Text.stripPrefix? [':']) s).map fun (n, s) => ({ f with offset := some n }, s)
  | offset =>
    (takeOffset? (fun s => some (s.dropWhile isOffsetSeparator)) (Text.trimStart s)).map
      fun (n, s) => ({ f with offset := some n }, s)

end Item

namespace Format

/-- Reads the items of a format one after the other. -/
def readFrom : Format → Fields → List Char → Option (Fields × List Char)
  | [], f, s => some (f, s)
  | item :: format, f, s => do
    let (f, s) ← item.read f s
    readFrom format f s

/-- Reads a whole text that has a format. -/
def read (format : Format) (s : List Char) : Option Fields :=
  match format.readFrom {} s with
  | some (f, []) => some f
  | _ => none

theorem read_eq_some_iff {format : Format} {s : List Char} {f : Fields} :
    format.read s = some f ↔ format.readFrom {} s = some (f, []) := by
  unfold read
  split
  · next f' h => simp [h]
  · next h => exact ⟨nofun, fun hread => absurd hread (h f)⟩

/-! ## The accepted formats -/

/-- A fixed character. -/
def char (c : Char) : Item :=
  .oneOf [c]

/-- Year, month and day with hyphens between them. -/
def date : Format :=
  [.number .year (.signed 4), char '-', .number .month (.upTo 2), char '-', .number .day (.upTo 2)]

/-- Hour and minute. -/
def hourMinute : Format :=
  [.number .hour (.upTo 2), char ':', .number .minute (.upTo 2)]

/-- Hour, minute, second and an optional fraction. -/
def time : Format :=
  hourMinute ++ [char ':', .number .second (.upTo 2), .fraction]

/-- The internet format: all fields with all their digits, and an offset. -/
def internet : Format :=
  [.number .year (.exactly 4), char '-', .number .month (.exactly 2), char '-',
    .number .day (.exactly 2), .oneOf ['T', 't', ' '], .number .hour (.exactly 2), char ':',
    .number .minute (.exactly 2), char ':', .number .second (.exactly 2), .fraction, .strictOffset]

/-- The formats with an offset, in the order in which they are tried. -/
def withOffset : List Format :=
  [internet,
    date ++ .blanks :: time ++ [.offset],
    date ++ char 'T' :: time ++ [.offset],
    date ++ .blanks :: time ++ [.blanks, .offset],
    date ++ .blanks :: hourMinute ++ [.offset],
    date ++ char 'T' :: hourMinute ++ [.offset]]

/-- The formats of a date and time without an offset, in the order in which they are tried. -/
def withoutOffset : List Format :=
  [date ++ .blanks :: time,
    date ++ char 'T' :: time,
    date ++ .blanks :: hourMinute,
    date ++ char 'T' :: hourMinute]

/-- The former format of stored dates: day, month and two digits of the year with slashes between
them, then hour and minute. -/
def former : Format :=
  [.number .day (.upTo 2), char '/', .number .month (.upTo 2), char '/',
    .number .shortYear (.upTo 2), .blanks] ++ hourMinute

end Format

end TokenInventory
