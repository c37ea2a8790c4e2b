import TokenInventory.Calendar.Spelling

/-!
# The range of the calendar

The days of later years come later (`daysToYear_mono`), and a day of a year comes before the next
year begins, so every date has a number between those of the first and the last day
(`Date.dayNumber_mem`). The formats keep the numbers of hours, minutes and seconds small
(`Format.isClock_of_read`), so a reading lies on the day of its date, and every instant that a text
stands for lies in the calendar (`inCalendar_of_readStoredInstant`).
-/

namespace TokenInventory

/-! ## Days -/

theorem daysToYear_mono {year year' : Int} (h : year ≤ year') :
    daysToYear year ≤ daysToYear year' := by
  unfold daysToYear leapYearsUpTo
  omega

theorem daysToYear_succ (year : Int) :
    daysToYear (year + 1) = daysToYear year + if isLeapYear year then 366 else 365 := by
  unfold daysToYear leapYearsUpTo isLeapYear
  simp only [Bool.and_eq_true, Bool.or_eq_true, beq_iff_eq, bne_iff_ne]
  split <;> omega

theorem daysToMonth_succ (year : Int) (month : Nat) :
    daysToMonth year (month + 1) = daysToMonth year month + daysInMonth year month := by
  rw [daysToMonth, List.range_succ, List.foldl_append]
  rfl

theorem daysToMonth_mono (year : Int) {month month' : Nat} (h : month ≤ month') :
    daysToMonth year month ≤ daysToMonth year month' := by
  induction h with
  | refl => exact Nat.le_refl _
  | step _ ih =>
    rw [daysToMonth_succ]
    exact Nat.le_trans ih (Nat.le_add_right _ _)

/-- The months of a year make up the year. -/
theorem daysToYear_add_daysToMonth (year : Int) :
    daysToYear year + daysToMonth year 13 = daysToYear (year + 1) := by
  rw [daysToYear_succ]
  cases hleap : isLeapYear year <;>
    simp [daysToMonth, List.range, List.range.loop, daysInMonth, hleap]

theorem month_mem_of_daysInMonth {year : Int} {month : Nat} (h : daysInMonth year month ≠ 0) :
    1 ≤ month ∧ month ≤ 12 := by
  refine Decidable.byContradiction fun hout => h ?_
  unfold daysInMonth
  split <;> first | rfl | omega

namespace Date

theorem month_mem (date : Date) : 1 ≤ date.month ∧ date.month ≤ 12 := by
  obtain ⟨hpos, hday⟩ := date.day_mem
  have hsome : daysInMonth date.year date.month ≠ 0 := by omega
  exact month_mem_of_daysInMonth hsome

theorem day_le (date : Date) : date.day ≤ 31 := by
  refine Nat.le_trans date.day_mem.2 ?_
  unfold daysInMonth
  split <;> first | decide | (split <;> decide)

/-- A date lies in its year. -/
theorem dayNumber_mem_year (date : Date) :
    daysToYear date.year ≤ date.dayNumber ∧ date.dayNumber < daysToYear (date.year + 1) := by
  have hmonth := date.month_mem.2
  obtain ⟨hpos, hday⟩ := date.day_mem
  have hend : daysToMonth date.year date.month + daysInMonth date.year date.month ≤
      daysToMonth date.year 13 := by
    rw [← daysToMonth_succ]
    exact daysToMonth_mono date.year (by omega)
  have hyear := daysToYear_add_daysToMonth date.year
  unfold dayNumber
  omega

/-- The number of a date lies between those of the first and the last day. -/
theorem dayNumber_mem (date : Date) : firstDay ≤ date.dayNumber ∧ date.dayNumber ≤ lastDay := by
  obtain ⟨hbegin, hend⟩ := date.dayNumber_mem_year
  have hfirst : daysToYear firstYear ≤ daysToYear date.year := daysToYear_mono date.year_mem.1
  have hlast : daysToYear (date.year + 1) ≤ daysToYear (lastYear + 1) := by
    refine daysToYear_mono ?_
    have := date.year_mem.2
    omega
  unfold firstDay lastDay
  omega

end Date

namespace Instant

theorem inCalendar_iff {seconds : Int} : inCalendar seconds = true ↔
    firstDay * secondsPerDay ≤ seconds ∧ seconds < (lastDay + 1) * secondsPerDay := by
  rw [inCalendar, Bool.and_eq_true, decide_eq_true_iff, decide_eq_true_iff]

theorem ofSeconds?_eq_some_iff {seconds : Int} {nanosecond : Nat} {instant : Instant} :
    ofSeconds? seconds nanosecond = some instant ↔
      inCalendar seconds = true ∧ instant = ⟨seconds, nanosecond⟩ := by
  unfold ofSeconds?
  split
  · next h => simp [h, eq_comm]
  · next h => simp [h]

/-- An instant some hours after one of the calendar is missing if the calendar has ended by then. -/
theorem addHours?_eq_none_iff {a : Instant} (h : inCalendar a.seconds = true) (hours : Nat) :
    a.addHours? hours = none ↔
      (lastDay + 1) * secondsPerDay ≤ a.seconds + 3600 * (hours : Int) := by
  obtain ⟨hfirst, -⟩ := inCalendar_iff.1 h
  have hlater : firstDay * secondsPerDay ≤ a.seconds + 3600 * (hours : Int) := by omega
  rw [addHours?, ofSeconds?, ite_eq_right_iff, inCalendar_iff]
  simp only [hlater, true_and, reduceCtorEq, imp_false, Int.not_lt]

end Instant

/-- A reading whose seconds belong to one day lies in the calendar. -/
theorem Reading.inCalendar_seconds {r : Reading} (h : r.secondOfDay < 86400) :
    Instant.inCalendar r.seconds = true := by
  obtain ⟨hfirst, hlast⟩ := r.date.dayNumber_mem
  rw [Instant.inCalendar_iff]
  unfold seconds secondsPerDay
  omega

/-! ## Formats -/

/-- Whether the hour, minute and second that were read are numbers on a clock. -/
structure Fields.IsClock (f : Fields) : Prop where
  hour_le : ∀ hour ∈ f.hour, hour ≤ 23
  minute_le : ∀ minute ∈ f.minute, minute ≤ 59
  second_le : ∀ second ∈ f.second, second ≤ 60

namespace Fields.IsClock

variable {f f' : Fields}

theorem set (h : f.IsClock) {field : Field} {n : Int} (hset : f.set field n = some f') :
    f'.IsClock := by
  obtain ⟨hhour, hminute, hsecond⟩ := h
  cases field with
  | year | shortYear =>
    cases hset
    exact ⟨hhour, hminute, hsecond⟩
  | month | day =>
    simp only [Fields.set, Option.ite_none_right_eq_some] at hset
    obtain ⟨-, ⟨⟩⟩ := hset
    exact ⟨hhour, hminute, hsecond⟩
  | hour =>
    simp only [Fields.set, Option.ite_none_right_eq_some] at hset
    obtain ⟨hn, ⟨⟩⟩ := hset
    refine ⟨?_, hminute, hsecond⟩
    rintro _ ⟨⟩
    omega
  | minute =>
    simp only [Fields.set, Option.ite_none_right_eq_some] at hset
    obtain ⟨hn, ⟨⟩⟩ := hset
    refine ⟨hhour, ?_, hsecond⟩
    rintro _ ⟨⟩
    omega
  | second =>
    simp only [Fields.set, Option.ite_none_right_eq_some] at hset
    obtain ⟨hn, ⟨⟩⟩ := hset
    refine ⟨hhour, hminute, ?_⟩
    rintro _ ⟨⟩
    omega

theorem empty : IsClock {} := by
  constructor <;> exact fun _ h => (Option.not_mem_none _ h).elim

/-- One item of a format. -/
theorem read (h : f.IsClock) {item : Item} {s rest : List Char}
    (hread : item.read f s = some (f', rest)) : f'.IsClock := by
  cases item with
  | oneOf choices =>
    cases s with
    | nil => cases hread
    | cons c s =>
      simp only [Item.read, Option.ite_none_right_eq_some] at hread
      obtain ⟨-, ⟨⟩⟩ := hread
      exact h
  | blanks =>
    cases hread
    exact h
  | number field digits =>
    simp only [Item.read, Option.bind_eq_bind, Option.bind_eq_some_iff] at hread
    obtain ⟨⟨n, _⟩, -, _, hset, ⟨⟩⟩ := hread
    exact h.set hset
  | fraction =>
    simp only [Item.read] at hread
    split at hread
    · obtain ⟨_, -, ⟨⟩⟩ := Option.map_eq_some_iff.1 hread
      exact ⟨h.hour_le, h.minute_le, h.second_le⟩
    · cases hread
      exact h
  | strictOffset =>
    simp only [Item.read] at hread
    split at hread
    · cases hread
      exact ⟨h.hour_le, h.minute_le, h.second_le⟩
    · cases hread
      exact ⟨h.hour_le, h.minute_le, h.second_le⟩
    · obtain ⟨_, -, ⟨⟩⟩ := Option.map_eq_some_iff.1 hread
      exact ⟨h.hour_le, h.minute_le, h.second_le⟩
  | offset =>
    simp only [Item.read] at hread
    obtain ⟨_, -, ⟨⟩⟩ := Option.map_eq_some_iff.1 hread
    exact ⟨h.hour_le, h.minute_le, h.second_le⟩

/-- The items of a format, one after the other. -/
theorem readFrom (h : f.IsClock) {format : Format} {s rest : List Char}
    (hread : format.readFrom f s = some (f', rest)) : f'.IsClock := by
  induction format generalizing f s with
  | nil =>
    cases hread
    exact h
  | cons item format ih =>
    rw [Format.readFrom, Option.bind_eq_bind, Option.bind_eq_some_iff] at hread
    obtain ⟨⟨f₁, s₁⟩, hitem, hrest⟩ := hread
    exact ih (h.read hitem) hrest

theorem secondOfDay_lt (h : f.IsClock) {r : Reading} (hr : f.reading? = some r) :
    r.secondOfDay < 86400 := by
  simp only [reading?, Option.bind_eq_bind, Option.bind_eq_some_iff] at hr
  obtain ⟨date, -, hour, hhour, minute, hminute, hr⟩ := hr
  have hhour : hour ≤ 23 := h.hour_le hour hhour
  have hminute : minute ≤ 59 := h.minute_le minute hminute
  have hsecond : f.second.getD 0 ≤ 60 := by
    cases hs : f.second with
    | none => exact Nat.zero_le _
    | some second => exact h.second_le second hs
  split at hr <;> cases hr <;> dsimp only <;> omega

end Fields.IsClock

theorem Format.isClock_of_read {format : Format} {s : List Char} {f : Fields}
    (h : format.read s = some f) : f.IsClock :=
  Fields.IsClock.readFrom .empty (read_eq_some_iff.1 h)

/-! ## Spelled instants -/

variable {zone : Zone} {placement : Placement} {s : List Char} {r : Reading} {instant : Instant}

theorem Fields.inCalendar_of_instant? {f : Fields} (h : f.instant? = some instant) :
    Instant.inCalendar instant.seconds = true := by
  simp only [instant?, Option.bind_eq_bind, Option.bind_eq_some_iff] at h
  obtain ⟨_, -, _, -, h⟩ := h
  obtain ⟨hin, rfl⟩ := Instant.ofSeconds?_eq_some_iff.1 h
  exact hin

theorem Placement.inCalendar_of_instant? (hr : r.secondOfDay < 86400)
    (h : placement.instant? zone r = some instant) :
    Instant.inCalendar instant.seconds = true := by
  cases placement with
  | localTime =>
    simp only [instant?, Zone.instant?, Option.bind_eq_bind, Option.bind_eq_some_iff] at h
    obtain ⟨_, -, h⟩ := h
    obtain ⟨hin, rfl⟩ := Instant.ofSeconds?_eq_some_iff.1 h
    exact hin
  | universalTime =>
    cases h
    exact Reading.inCalendar_seconds hr

theorem Spelling.secondOfDay_lt_of_reading? (h : reading? s = some r) : r.secondOfDay < 86400 := by
  rw [reading?, Option.orElse_eq_orElse, Option.orElse_eq_or, Option.or_eq_some_iff] at h
  rcases h with h | ⟨-, h⟩
  · obtain ⟨format, -, hread⟩ := List.exists_of_findSome?_eq_some h
    obtain ⟨f, hf, hr⟩ := Option.bind_eq_some_iff.1 hread
    exact (Format.isClock_of_read hf).secondOfDay_lt hr
  · obtain ⟨date, -, rfl⟩ := Option.map_eq_some_iff.1 h
    exact Nat.zero_lt_succ _

theorem inCalendar_of_readInstant (h : readInstant zone placement s = some instant) :
    Instant.inCalendar instant.seconds = true := by
  obtain ⟨spelling, hspelling, hinstant⟩ := Option.bind_eq_some_iff.1 h
  rw [Spelling.ofText?, Option.orElse_eq_orElse, Option.orElse_eq_or,
    Option.or_eq_some_iff] at hspelling
  rcases hspelling with hspelling | ⟨-, hspelling⟩
  · obtain ⟨_, hread, rfl⟩ := Option.map_eq_some_iff.1 hspelling
    cases hinstant
    obtain ⟨format, -, hread⟩ := List.exists_of_findSome?_eq_some hread
    obtain ⟨f, -, hf⟩ := Option.bind_eq_some_iff.1 hread
    exact Fields.inCalendar_of_instant? hf
  · obtain ⟨r, hr, rfl⟩ := Option.map_eq_some_iff.1 hspelling
    exact Placement.inCalendar_of_instant? (Spelling.secondOfDay_lt_of_reading? hr) hinstant

/-- The instant that a stored text stands for lies in the calendar. -/
theorem inCalendar_of_readStoredInstant
    (h : readStoredInstant zone placement s = some instant) :
    Instant.inCalendar instant.seconds = true := by
  rw [readStoredInstant, Option.orElse_eq_orElse, Option.orElse_eq_or, Option.or_eq_some_iff] at h
  rcases h with h | ⟨-, h⟩
  · exact inCalendar_of_readInstant h
  · obtain ⟨r, hread, hinstant⟩ := Option.bind_eq_some_iff.1 h
    obtain ⟨f, hf, hr⟩ := Option.bind_eq_some_iff.1 hread
    exact Placement.inCalendar_of_instant? ((Format.isClock_of_read hf).secondOfDay_lt hr) hinstant

end TokenInventory
