import TokenInventory.Proofs.Calendar.Numbers
import TokenInventory.Proofs.Calendar.Range

/-!
# Spelled dates, times and offsets

A date is spelled with four digits of the year and two of the month and the day, with hyphens. A
time has two digits of the hour and the minute; a second may follow, and behind a second a fraction.
An offset has two digits of hours and of minutes, with or without a colon between them. The items of
formats read what is spelled this way and nothing of what follows it (`Format.readAll_date`,
`SpelledOffset.read_offset`, `SpelledOffset.read_strictOffset`).
-/

namespace TokenInventory

/-! ## Spelled dates and times -/

/-- A number below a hundred with two digits. -/
def twoDigits (n : Nat) : List Char :=
  (Instant.padded 2 n).toList

/-- Year, month and day with hyphens between them. -/
def Date.spelled (date : Date) : List Char :=
  (Instant.padded 4 date.year.toNat).toList ++
    '-' :: (twoDigits date.month ++ '-' :: twoDigits date.day)

/-- A second, and the digits of its fraction. -/
structure SpelledSecond where
  second : Fin 60
  fraction : List Char := []
  isDigit : fraction.all Char.isDigit = true := by decide

/-- The second and its fraction behind a colon. -/
def SpelledSecond.text (s : SpelledSecond) : List Char :=
  ':' :: (twoDigits s.second ++ fractionText s.fraction)

/-- A time of day as it is spelled. -/
structure SpelledTime where
  hour : Fin 24
  minute : Fin 60
  second : Option SpelledSecond := none

namespace SpelledTime

/-- Hour and minute with a colon between them, and what there is of a second. -/
def text (time : SpelledTime) : List Char :=
  twoDigits time.hour ++ ':' :: (twoDigits time.minute ++ time.second.elim [] SpelledSecond.text)

/-- The time on a date. -/
def on (time : SpelledTime) (date : Date) : Reading where
  date := date
  secondOfDay := time.hour * 3600 + time.minute * 60 + time.second.elim 0 fun s => s.second.val
  nanosecond := time.second.elim 0 fun s => billionths s.fraction

end SpelledTime

/-- An offset from universal time as it is spelled. -/
structure SpelledOffset where
  isWest : Bool
  hours : Fin 24
  minutes : Fin 60
  hasColon : Bool

namespace SpelledOffset

/-- What stands between the hours and the minutes. -/
def gap (offset : SpelledOffset) : List Char :=
  if offset.hasColon then [':'] else []

/-- The hours and minutes behind a sign. -/
def text (offset : SpelledOffset) : List Char :=
  (if offset.isWest then '-' else '+') ::
    (twoDigits offset.hours ++ (offset.gap ++ twoDigits offset.minutes))

/-- The seconds east of universal time. -/
def seconds (offset : SpelledOffset) : Int :=
  (if offset.isWest then -1 else 1) * (offset.hours * 3600 + offset.minutes * 60)

end SpelledOffset

/-! ## Reading one item after the other -/

theorem isDigits_twoDigits (n : Nat) : Text.IsDigits (twoDigits n) n :=
  Instant.isDigits_padded 2 n

theorem length_twoDigits {n : Nat} (h : n < 100) : (twoDigits n).length = 2 :=
  Instant.length_padded (by decide) h

theorem exists_cons_twoDigits (n : Nat) : ∃ c s, twoDigits n = c :: s ∧ c.isDigit = true := by
  obtain ⟨c, s, hcons⟩ := List.exists_cons_of_ne_nil (isDigits_twoDigits n).ne_nil
  exact ⟨c, s, hcons, (isDigits_twoDigits n).isDigit c (hcons ▸ List.mem_cons_self)⟩

theorem SpelledTime.trimStart_text (time : SpelledTime) (rest : List Char) :
    Text.trimStart (time.text ++ rest) = time.text ++ rest := by
  obtain ⟨c, s, hcons, hc⟩ := exists_cons_twoDigits time.hour
  rw [text, hcons]
  exact Text.trimStart_cons_of_isDigit hc _

namespace Format

/-- Reads a whole text with what has been read before it. -/
def readAll (format : Format) (f : Fields) (s : List Char) : Option Fields :=
  match format.readFrom f s with
  | some (f, []) => some f
  | _ => none

theorem read_eq_readAll (format : Format) (s : List Char) : format.read s = format.readAll {} s :=
  rfl

variable {format : Format} {item : Item} {f f' : Fields} {s rest : List Char}

theorem readAll_cons_of_read (h : item.read f s = some (f', rest)) :
    readAll (item :: format) f s = readAll format f' rest := by
  rw [readAll, readFrom, h]
  rfl

theorem readAll_cons_of_read_eq_none (h : item.read f s = none) :
    readAll (item :: format) f s = none := by
  rw [readAll, readFrom, h]
  rfl

theorem readAll_number {digits : Digits} {field : Field} {n : Nat} (hs : Text.IsDigits s n)
    (hlength : s.length = digits.count) (hset : f.set field n = some f') :
    readAll (.number field digits :: format) f (s ++ rest) = readAll format f' rest := by
  refine readAll_cons_of_read ?_
  rw [Item.read, digits.read_append hs hlength]
  simp only [Option.bind_eq_bind, Option.bind_some, hset]

theorem readAll_twoDigits {digits : Digits} {field : Field} {n : Nat} (hn : n < 100)
    (hcount : digits.count = 2) (hset : f.set field n = some f') :
    readAll (.number field digits :: format) f (twoDigits n ++ rest) = readAll format f' rest :=
  readAll_number (isDigits_twoDigits n) ((length_twoDigits hn).trans hcount.symm) hset

theorem readAll_char (c : Char) :
    readAll (char c :: format) f (c :: rest) = readAll format f rest :=
  readAll_cons_of_read (if_pos List.mem_cons_self)

theorem readAll_char_of_ne {c : Char} (h : s.head? ≠ some c) :
    readAll (char c :: format) f s = none := by
  refine readAll_cons_of_read_eq_none ?_
  cases s with
  | nil => rfl
  | cons d s =>
    refine if_neg fun hd => h ?_
    rw [List.mem_singleton.1 hd]
    rfl

theorem readAll_blanks (hs : Text.trimStart s = s) :
    readAll (.blanks :: format) f (' ' :: s) = readAll format f s := by
  refine readAll_cons_of_read ?_
  rw [Item.read, Text.trimStart, List.dropWhile_cons_of_pos (by decide), ← Text.trimStart, hs]

/-- A date is read by the items of a date. -/
theorem readAll_date (format : Format) (f : Fields) (rest : List Char) {date : Date}
    (hyear : 0 ≤ date.year ∧ date.year ≤ 9999) {year number : Digits} (hfour : year.count = 4)
    (htwo : number.count = 2) :
    readAll (.number .year year :: char '-' :: .number .month number :: char '-' ::
        .number .day number :: format) f (date.spelled ++ rest) =
      readAll format
        { f with year := some date.year, month := some date.month, day := some date.day } rest := by
  obtain ⟨hmonth, hmonth'⟩ := date.month_mem
  have hday := date.day_mem.1
  have hday' := date.day_le
  have hwidth : (Instant.padded 4 date.year.toNat).toList.length = year.count := by
    rw [hfour]
    exact Instant.length_padded (by decide) (by omega)
  rw [Date.spelled, List.append_assoc, List.cons_append, List.append_assoc, List.cons_append,
    readAll_number (Instant.isDigits_padded 4 _) hwidth rfl, readAll_char,
    readAll_twoDigits (by omega) htwo (by rw [Fields.set, if_pos (by omega)]), readAll_char,
    readAll_twoDigits (by omega) htwo (by rw [Fields.set, if_pos (by omega)])]
  simp only [Int.toNat_natCast, Int.toNat_of_nonneg hyear.1]

/-- The hour and the minute of a time are read by the items of an hour and a minute. -/
theorem readAll_hourMinute (format : Format) (f : Fields) (rest : List Char) (time : SpelledTime)
    {number : Digits} (htwo : number.count = 2) :
    readAll (.number .hour number :: char ':' :: .number .minute number :: format) f
        (time.text ++ rest) =
      readAll format { f with hour := some time.hour.val, minute := some time.minute.val }
        (time.second.elim [] SpelledSecond.text ++ rest) := by
  have hhour := time.hour.isLt
  have hminute := time.minute.isLt
  rw [SpelledTime.text, List.append_assoc, List.cons_append, List.append_assoc,
    readAll_twoDigits (by omega) htwo (by rw [Fields.set, if_pos (by omega)]), readAll_char,
    readAll_twoDigits (by omega) htwo (by rw [Fields.set, if_pos (by omega)])]
  rfl

end Format

/-! ## Offsets -/

namespace SpelledOffset

theorem exists_cons_text (offset : SpelledOffset) :
    ∃ sign s, offset.text = sign :: s ∧ sign ∈ ['+', '-'] := by
  refine ⟨_, _, rfl, ?_⟩
  cases offset.isWest <;> decide

theorem gap_append (offset : SpelledOffset) (s : List Char) :
    offset.gap ++ s = if offset.hasColon then ':' :: s else s := by
  rw [gap]
  split <;> rfl

theorem takeSign?_cons (isWest : Bool) (s : List Char) :
    takeSign? ((if isWest then '-' else '+') :: s) = some (if isWest then -1 else 1, s) := by
  cases isWest <;> rfl

theorem read_exactly_two {n : Nat} (hn : n < 100) (rest : List Char) :
    (Digits.exactly 2).read (twoDigits n ++ rest) = some ((n : Int), rest) :=
  Digits.read_append (.exactly 2) (isDigits_twoDigits n) (length_twoDigits hn) rest

/-- Reading an offset depends on what is skipped behind the hours. -/
theorem takeOffset?_text (skip : List Char → Option (List Char)) (offset : SpelledOffset)
    (hskip : ∀ s ∈ skip (offset.gap ++ twoDigits offset.minutes), s = twoDigits offset.minutes) :
    takeOffset? skip offset.text =
      (skip (offset.gap ++ twoDigits offset.minutes)).map fun _ => (offset.seconds, []) := by
  have hhours := offset.hours.isLt
  have hminutes := offset.minutes.isLt
  have hlast := read_exactly_two (n := offset.minutes) (by omega) []
  rw [List.append_nil] at hlast
  rw [takeOffset?, text, takeSign?_cons]
  simp only [Option.bind_eq_bind, Option.bind_some, read_exactly_two (n := offset.hours) (by omega)]
  cases hrest : skip (offset.gap ++ twoDigits offset.minutes) with
  | none => rfl
  | some s =>
    obtain rfl := hskip s hrest
    simp only [Option.bind_some, hlast]
    rw [if_pos (by omega)]
    rfl

theorem trimStart_text (offset : SpelledOffset) : Text.trimStart offset.text = offset.text := by
  obtain ⟨sign, s, hcons, hsign⟩ := offset.exists_cons_text
  have hblank : Text.isBlank sign = false := by
    rcases List.mem_pair.1 hsign with rfl | rfl <;> rfl
  rw [hcons]
  exact List.dropWhile_cons_of_neg (by rw [hblank]; decide)

theorem read_offset (offset : SpelledOffset) (f : Fields) :
    Item.offset.read f offset.text = some ({ f with offset := some offset.seconds }, []) := by
  have hdigits : (twoDigits offset.minutes).dropWhile isOffsetSeparator =
      twoDigits offset.minutes := by
    obtain ⟨c, s, hcons, hc⟩ := exists_cons_twoDigits offset.minutes
    have hcolon : c ≠ ':' := by
      rintro rfl
      cases hc
    have hblank := Text.isBlank_of_isAlphanum (c := c) (by rw [Char.isAlphanum, hc, Bool.or_true])
    rw [hcons]
    exact List.dropWhile_cons_of_neg (by simp [isOffsetSeparator, hcolon, hblank])
  have hskip : (offset.gap ++ twoDigits offset.minutes).dropWhile isOffsetSeparator =
      twoDigits offset.minutes := by
    rw [gap_append]
    split
    · rw [List.dropWhile_cons_of_pos rfl, hdigits]
    · exact hdigits
  rw [Item.read, trimStart_text,
    takeOffset?_text (fun s => some (s.dropWhile isOffsetSeparator)) offset
      fun s hs => (Option.some.inj hs).symm.trans hskip]
  rfl

/-- The internet format wants the colon. -/
theorem read_strictOffset (offset : SpelledOffset) (f : Fields) :
    Item.strictOffset.read f offset.text =
      if offset.hasColon then some ({ f with offset := some offset.seconds }, []) else none := by
  have hread : Item.strictOffset.read f offset.text =
      (takeOffset? (Text.stripPrefix? [':']) offset.text).map
        fun read => ({ f with offset := some read.1 }, read.2) := by
    obtain ⟨sign, s, hcons, hsign⟩ := offset.exists_cons_text
    rw [hcons]
    rcases List.mem_pair.1 hsign with rfl | rfl <;> rfl
  have hnone : Text.stripPrefix? [':'] (twoDigits offset.minutes) = none := by
    obtain ⟨c, s, hcons, hc⟩ := exists_cons_twoDigits offset.minutes
    rw [hcons]
    refine if_neg ?_
    rintro rfl
    cases hc
  have hskip : Text.stripPrefix? [':'] (offset.gap ++ twoDigits offset.minutes) =
      if offset.hasColon then some (twoDigits offset.minutes) else none := by
    rw [gap_append]
    split
    · exact Text.stripPrefix?_append [':'] _
    · exact hnone
  rw [hread, takeOffset?_text (Text.stripPrefix? [':']) offset, hskip]
  · split <;> rfl
  · rw [hskip]
    intro s hs
    split at hs
    · exact (Option.some.inj hs).symm
    · cases hs

end SpelledOffset

end TokenInventory
