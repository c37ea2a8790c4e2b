import TokenInventory.Proofs.Calendar.Parts

/-!
# Dates mean what they say

A spelled date and time stands for its reading, or with an offset for an instant, which lies in the
calendar if the year has four digits (`Spelling.ofText?_spelled`); a date alone stands for its
midnight (`Spelling.ofText?_date`). The former format of stored dates is not mistaken for another
one (`Spelling.ofText?_formerly`). So every documented spelling means what it says
(`readInstant_spelled`).
-/

namespace TokenInventory

/-! ## Instants and readings -/

theorem Date.ofNumbers?_eq (date : Date) :
    ofNumbers? date.year date.month date.day = some date := by
  rw [ofNumbers?, dif_pos date.year_mem, dif_pos date.day_mem]

namespace SpelledTime

theorem second_lt (time : SpelledTime) : (time.second.elim 0 fun s => s.second.val) < 60 := by
  cases time.second with
  | none => decide
  | some s => exact s.second.isLt

theorem secondOfDay_lt (time : SpelledTime) (date : Date) : (time.on date).secondOfDay < 86400 := by
  have hhour := time.hour.isLt
  have hminute := time.minute.isLt
  have hsecond := time.second_lt
  rw [on]
  dsimp only
  omega

theorem reading?_fields (date : Date) (time : SpelledTime) (offset : Option SpelledOffset) :
    (FormatParts.fields date time offset).reading? = some (time.on date) := by
  have hsecond : (time.second.map fun s => s.second.val).getD 0 =
      time.second.elim 0 fun s => s.second.val := by
    cases time.second <;> rfl
  simp only [Fields.reading?, Fields.date?, FormatParts.fields, Option.bind_eq_bind,
    Option.bind_some, date.ofNumbers?_eq, hsecond]
  rw [if_neg (Nat.ne_of_lt time.second_lt)]
  rfl

end SpelledTime

theorem SpelledOffset.seconds_mem (offset : SpelledOffset) :
    -86400 < offset.seconds ∧ offset.seconds < 86400 := by
  have hhours := offset.hours.isLt
  have hminutes := offset.minutes.isLt
  unfold seconds
  split <;> omega

/-- An instant of the years that have four digits lies in the calendar, whatever its offset. -/
theorem SpelledTime.instant?_fields {date : Date} (hyear : 0 ≤ date.year ∧ date.year ≤ 9999)
    (time : SpelledTime) (offset : SpelledOffset) :
    (FormatParts.fields date time (some offset)).instant? =
      some ⟨(time.on date).seconds - offset.seconds, (time.on date).nanosecond⟩ := by
  have hcalendar : Instant.inCalendar ((time.on date).seconds - offset.seconds) = true := by
    obtain ⟨hbegin, hend⟩ := date.dayNumber_mem_year
    have hfirst : daysToYear 0 ≤ daysToYear date.year := daysToYear_mono hyear.1
    have hlast : daysToYear (date.year + 1) ≤ daysToYear 10000 := daysToYear_mono (by omega)
    have hbefore : firstDay + 1 ≤ daysToYear 0 := by decide
    have hafter : daysToYear 10000 ≤ lastDay := by decide
    have hsecond := time.secondOfDay_lt date
    obtain ⟨hwest, heast⟩ := offset.seconds_mem
    rw [Instant.inCalendar_iff, Reading.seconds, secondsPerDay,
      show (time.on date).date = date from rfl]
    omega
  simp only [Fields.instant?, reading?_fields, Option.bind_eq_bind, Option.bind_some]
  exact if_pos hcalendar

namespace Spelling

/-- A text with no format of a date and time is a date alone, if anything. -/
theorem ofText?_of_forall_read_eq_none {s : List Char}
    (h : ∀ parts : FormatParts, parts.format.read s = none) :
    ofText? s = ((Format.date.read s).bind Fields.date?).map fun date =>
      .reading (.midnight date) := by
  have hnone {α : Type} (formats : List FormatParts) (g : Fields → Option α) :
      (formats.map FormatParts.format).findSome? (fun format => (format.read s).bind g) = none := by
    rw [List.findSome?_eq_none_iff, List.forall_mem_map]
    intro parts _
    rw [h parts, Option.bind_none]
  rw [ofText?, reading?, ← FormatParts.map_format_withOffset,
    ← FormatParts.map_format_withoutOffset, hnone, hnone]
  cases (Format.date.read s).bind Fields.date? <;> rfl

variable {date : Date} (hyear : 0 ≤ date.year ∧ date.year ≤ 9999)
include hyear

/-- A text with an offset stands for an instant, and one without for a reading. -/
theorem ofText?_spelled {separator : Char} (hseparator : separator ∈ [' ', 'T'])
    (time : SpelledTime) (offset : Option SpelledOffset) :
    ofText? (date.spelled ++ separator :: (time.text ++ offset.elim [] SpelledOffset.text)) =
      some (offset.elim (.reading (time.on date)) fun offset =>
        .instant ⟨(time.on date).seconds - offset.seconds, (time.on date).nanosecond⟩) := by
  rw [ofText?, reading?, ← FormatParts.map_format_withOffset,
    ← FormatParts.map_format_withoutOffset, FormatParts.findSome?_read_spelled hyear _ hseparator,
    FormatParts.findSome?_read_spelled hyear _ hseparator,
    FormatParts.any_fits_withOffset hseparator, FormatParts.any_fits_withoutOffset hseparator]
  cases offset with
  | none =>
    rw [SpelledTime.reading?_fields]
    rfl
  | some offset =>
    simp only [Option.isSome_some, if_true, time.instant?_fields hyear offset]
    rfl

/-- A date alone stands for its midnight. -/
theorem ofText?_date : ofText? date.spelled = some (.reading (.midnight date)) := by
  have hread : Format.date.read date.spelled =
      some { year := some date.year, month := some date.month, day := some date.day } := by
    have hread : Format.readAll Format.date {} (date.spelled ++ []) =
        some { year := some date.year, month := some date.month, day := some date.day } :=
      Format.readAll_date [] {} [] hyear rfl rfl
    rwa [List.append_nil] at hread
  rw [ofText?_of_forall_read_eq_none fun parts => parts.read_date hyear, hread]
  simp only [Fields.date?, Option.bind_eq_bind, Option.bind_some, date.ofNumbers?_eq,
    Option.map_some]

end Spelling

/-! ## The former format -/

/-- Day, month and the last two digits of the year with slashes between them, then the time. -/
def Date.formerly (date : Date) (shortYear : Nat) (time : SpelledTime) : List Char :=
  twoDigits date.day ++ '/' :: (twoDigits date.month ++ '/' :: (twoDigits shortYear ++
    ' ' :: time.text))

/-- A year is not followed by a slash. -/
theorem Format.readAll_year_of_slash {year : Digits} (hcount : year.count = 4) {n : Nat}
    (hn : n < 100) (format : Format) (f : Fields) (rest : List Char) :
    readAll (.number .year year :: char '-' :: format) f (twoDigits n ++ '/' :: rest) = none := by
  have hdigits := isDigits_twoDigits n
  have htake : takeDigits year.count (twoDigits n ++ '/' :: rest) = (twoDigits n, '/' :: rest) := by
    have hrest : NoDigit ('/' :: rest) := by
      rintro _ ⟨⟩
      rfl
    rw [takeDigits_append_of_noDigit _ hdigits.isDigit hrest, hcount,
      List.take_of_length_le (by rw [length_twoDigits hn]; decide),
      List.drop_of_length_le (by rw [length_twoDigits hn]; decide), List.nil_append]
  have hread := year.read_of_takeDigits hdigits htake
  cases hallows : year.allows (twoDigits n).length with
  | false =>
    rw [hallows] at hread
    refine readAll_cons_of_read_eq_none ?_
    rw [Item.read, hread]
    rfl
  | true =>
    rw [hallows] at hread
    have hitem : (Item.number .year year).read f (twoDigits n ++ '/' :: rest) =
        some ({ f with year := some n }, '/' :: rest) := by
      rw [Item.read, hread]
      rfl
    exact (readAll_cons_of_read hitem).trans (readAll_char_of_ne (by simp))

/-- A text in the former format has no other format. -/
theorem Spelling.ofText?_formerly (date : Date) (shortYear : Nat) (time : SpelledTime) :
    ofText? (date.formerly shortYear time) = none := by
  have hday := date.day_le
  have hparts (parts : FormatParts) : parts.format.read (date.formerly shortYear time) = none := by
    rw [Format.read_eq_readAll, FormatParts.format, Date.formerly,
      Format.readAll_year_of_slash parts.year_count (by omega)]
  have hdate : Format.date.read (date.formerly shortYear time) = none := by
    rw [Format.read_eq_readAll, Format.date, Date.formerly,
      Format.readAll_year_of_slash rfl (by omega)]
  rw [ofText?_of_forall_read_eq_none hparts, hdate]
  rfl

theorem Format.read_formerly {date : Date} {shortYear : Fin 100}
    (hyear : date.year = (if shortYear.val < 70 then 2000 else 1900) + shortYear.val)
    (hour : Fin 24) (minute : Fin 60) :
    former.read (date.formerly shortYear ⟨hour, minute, none⟩) =
      some (FormatParts.fields date ⟨hour, minute, none⟩ none) := by
  obtain ⟨hmonth, hmonth'⟩ := date.month_mem
  have hday := date.day_mem.1
  have hday' := date.day_le
  have hshort := shortYear.isLt
  have hset : ∀ f : Fields,
      f.set .shortYear shortYear.val = some { f with year := some date.year } := by
    intro f
    rw [Fields.set, hyear]
    by_cases hcentury : shortYear.val < 70
    · rw [if_pos hcentury, if_pos (by omega), Int.add_comm]
    · rw [if_neg hcentury, if_neg (by omega), Int.add_comm]
  have htime := readAll_hourMinute [] { (FormatParts.fields date ⟨hour, minute, none⟩ none) with
    hour := none, minute := none } [] ⟨hour, minute, none⟩ (show (Digits.upTo 2).count = 2 from rfl)
  have htrim := SpelledTime.trimStart_text ⟨hour, minute, none⟩ []
  rw [List.append_nil] at htime htrim
  rw [read_eq_readAll, former, hourMinute, Date.formerly]
  simp only [List.cons_append, List.nil_append]
  rw [readAll_twoDigits (by omega) rfl (by rw [Fields.set, if_pos (by omega)]), readAll_char,
    readAll_twoDigits (by omega) rfl (by rw [Fields.set, if_pos (by omega)]), readAll_char,
    readAll_twoDigits hshort rfl (hset _), readAll_blanks htrim]
  exact htime

/-! ## Trimmed texts -/

/-- Whether a text ends in a digit. -/
def EndsInDigit (s : List Char) : Prop :=
  ∃ c ∈ s.getLast?, c.isDigit = true

namespace EndsInDigit

variable {s : List Char}

theorem append (front : List Char) (h : EndsInDigit s) : EndsInDigit (front ++ s) := by
  obtain ⟨c, hc, hdigit⟩ := h
  exact ⟨c, by rw [List.getLast?_append, hc]; rfl, hdigit⟩

theorem cons (c : Char) (h : EndsInDigit s) : EndsInDigit (c :: s) :=
  h.append [c]

theorem of_forall (hs : s ≠ []) (h : ∀ c ∈ s, c.isDigit = true) : EndsInDigit s :=
  ⟨s.getLast hs, List.getLast?_eq_some_getLast hs, h _ (List.getLast_mem hs)⟩

end EndsInDigit

theorem Text.IsDigits.isDigit_head? {s : List Char} {n : Nat} (h : IsDigits s n)
    (rest : List Char) : ∀ c ∈ (s ++ rest).head?, c.isDigit = true := by
  obtain ⟨c, tail, rfl⟩ := List.exists_cons_of_ne_nil h.ne_nil
  rintro _ ⟨⟩
  exact h.isDigit c List.mem_cons_self

theorem endsInDigit_twoDigits (n : Nat) : EndsInDigit (twoDigits n) :=
  .of_forall (isDigits_twoDigits n).ne_nil (isDigits_twoDigits n).isDigit

theorem SpelledTime.endsInDigit (time : SpelledTime) : EndsInDigit time.text := by
  refine .append _ (.cons _ ?_)
  cases time.second with
  | none => exact (List.append_nil _).symm ▸ endsInDigit_twoDigits _
  | some s =>
    refine .append _ (.cons _ ?_)
    rw [fractionText]
    split
    · exact (List.append_nil _).symm ▸ endsInDigit_twoDigits _
    · next hne => exact .append _ (.cons _ (.of_forall hne (List.all_eq_true.1 s.isDigit)))

theorem SpelledOffset.endsInDigit (offset : SpelledOffset) : EndsInDigit offset.text :=
  .cons _ (.append _ (.append _ (endsInDigit_twoDigits _)))

/-- A text that begins with a number and ends in a digit has no blanks at its ends. -/
theorem trim_of_endsInDigit {s rest : List Char} {n : Nat} (hs : Text.IsDigits s n)
    (h : EndsInDigit rest) : Text.trim (s ++ rest) = s ++ rest := by
  have hblank : ∀ c : Char, c.isDigit = true → Text.isBlank c = false := fun c hc =>
    Text.isBlank_of_isAlphanum (by rw [Char.isAlphanum, hc, Bool.or_true])
  obtain ⟨c, hlast, hc⟩ := h.append s
  refine Text.trim_eq_self_iff.2 ⟨fun c hc => hblank c (hs.isDigit_head? rest c hc), fun d hd => ?_⟩
  obtain rfl := Option.some.inj (hd.symm.trans hlast)
  exact hblank _ hc

theorem Date.trim_spelled (date : Date) {rest : List Char} (h : rest = [] ∨ EndsInDigit rest) :
    Text.trim (date.spelled ++ rest) = date.spelled ++ rest := by
  rw [spelled, List.append_assoc, List.cons_append, List.append_assoc, List.cons_append]
  refine trim_of_endsInDigit (Instant.isDigits_padded 4 _) (.cons _ (.append _ (.cons _ ?_)))
  rcases h with rfl | h
  · rw [List.append_nil]
    exact endsInDigit_twoDigits _
  · exact h.append _

theorem Date.trim_formerly (date : Date) (shortYear : Nat) (time : SpelledTime) :
    Text.trim (date.formerly shortYear time) = date.formerly shortYear time :=
  trim_of_endsInDigit (isDigits_twoDigits _)
    (.cons _ (.append _ (.cons _ (.append _ (.cons _ time.endsInDigit)))))

/-! ## Every documented spelling -/

/-- What a date says, with a time or without, is what it is read as. With an offset it is an
instant; otherwise a reading, which is placed. The former format is read where a value is stored. -/
theorem readInstant_spelled {date : Date} (hyear : 0 ≤ date.year ∧ date.year ≤ 9999) (zone : Zone)
    (placement : Placement) :
    (∀ separator ∈ [' ', 'T'], ∀ time : SpelledTime,
      (∀ offset : SpelledOffset,
        readInstant zone placement (date.spelled ++ separator :: (time.text ++ offset.text)) =
          some ⟨(time.on date).seconds - offset.seconds, (time.on date).nanosecond⟩) ∧
      readInstant zone placement (date.spelled ++ separator :: time.text) =
        placement.instant? zone (time.on date)) ∧
    readInstant zone placement date.spelled = placement.instant? zone (.midnight date) ∧
    ∀ shortYear : Fin 100,
      date.year = (if shortYear.val < 70 then 2000 else 1900) + shortYear.val →
        ∀ (hour : Fin 24) (minute : Fin 60),
          readInstant zone placement (date.formerly shortYear ⟨hour, minute, none⟩) = none ∧
          readStoredInstant zone placement (date.formerly shortYear ⟨hour, minute, none⟩) =
            placement.instant? zone ⟨date, hour * 3600 + minute * 60, 0⟩ := by
  refine ⟨fun separator hseparator time => ⟨fun offset => ?_, ?_⟩, ?_,
    fun shortYear hshort hour minute => ?_⟩
  · have htrim := date.trim_spelled (.inr (.cons separator (.append time.text offset.endsInDigit)))
    have hread := Spelling.ofText?_spelled hyear hseparator time (some offset)
    rw [Option.elim_some] at hread
    rw [readInstant, htrim, hread]
    rfl
  · have htrim := date.trim_spelled (.inr (.cons separator time.endsInDigit))
    have hread := Spelling.ofText?_spelled hyear hseparator time none
    rw [Option.elim_none, List.append_nil] at hread
    rw [readInstant, htrim, hread]
    rfl
  · have htrim := date.trim_spelled (.inl rfl)
    rw [List.append_nil] at htrim
    rw [readInstant, htrim, Spelling.ofText?_date hyear]
    rfl
  · have htrim := date.trim_formerly shortYear ⟨hour, minute, none⟩
    have hnone : readInstant zone placement (date.formerly shortYear ⟨hour, minute, none⟩) =
        none := by
      rw [readInstant, htrim, Spelling.ofText?_formerly]
      rfl
    refine ⟨hnone, ?_⟩
    rw [readStoredInstant, hnone, htrim, Format.read_formerly hshort, Option.bind_some,
      SpelledTime.reading?_fields, Option.bind_some, SpelledTime.on, Option.elim_none,
      Option.elim_none, Nat.add_zero]
    rfl

/-- A quarter of a second, an hour and a half west, and the former format of the same evening. -/
theorem readInstant_spelled_evening :
    let date : Date := ⟨2020, 12, 24, by decide, by decide⟩
    let zone : Zone := .fixed 3600
    (0 ≤ date.year ∧ date.year ≤ 9999) ∧
      readInstant zone .localTime "2020-12-24T18:00:30.25-01:30".toList =
        some ⟨1608838230, 250000000⟩ ∧
      readInstant zone .localTime "2020-12-24 18:00".toList = some ⟨1608829200, 0⟩ ∧
      readInstant zone .localTime "2020-12-24".toList = some ⟨1608764400, 0⟩ ∧
      readInstant zone .localTime "24/12/20 18:00".toList = none ∧
      readStoredInstant zone .localTime "24/12/20 18:00".toList = some ⟨1608829200, 0⟩ := by
  intro date zone
  have hyear : 0 ≤ date.year ∧ date.year ≤ 9999 := by decide
  obtain ⟨htimes, hdate, hformer⟩ := readInstant_spelled hyear zone .localTime
  let evening : SpelledTime := ⟨18, 0, some { second := 30, fraction := ['2', '5'] }⟩
  let west : SpelledOffset := ⟨true, 1, 30, true⟩
  have hwest := (htimes 'T' (by decide) evening).1 west
  have hplaced := (htimes ' ' (by decide) ⟨18, 0, none⟩).2
  obtain ⟨hnone, hstored⟩ := hformer 20 (by decide) 18 0
  have htext : date.spelled ++ 'T' :: (evening.text ++ west.text) =
      "2020-12-24T18:00:30.25-01:30".toList := by decide
  have htext' : date.spelled ++ ' ' :: SpelledTime.text ⟨18, 0, none⟩ =
      "2020-12-24 18:00".toList := by decide
  have hdateText : date.spelled = "2020-12-24".toList := by decide
  have hformerText : date.formerly 20 ⟨18, 0, none⟩ = "24/12/20 18:00".toList := by decide
  rw [← htext, ← htext', ← hdateText, ← hformerText]
  exact ⟨hyear, hwest.trans (by decide), hplaced.trans (by decide), hdate.trans (by decide), hnone,
    hstored.trans (by decide)⟩

end TokenInventory
