import TokenInventory.Calendar.Spelling
import TokenInventory.Proofs.Calendar.Spelled

/-!
# The parts of formats

The accepted formats differ in a few parts only: what stands between the date and the time, whether
there is a second, and what stands at the end (`FormatParts`). A format reads a spelled date and
time exactly if it has the parts of the text, and then it reads what is spelled
(`FormatParts.read_spelled`). So it does not matter in which order the formats are tried
(`FormatParts.findSome?_read_spelled`), and for each text there is one
(`FormatParts.any_fits_withOffset`, `FormatParts.any_fits_withoutOffset`).
-/

namespace TokenInventory

/-! ## The parts of formats -/

/-- Whether an item that stands between a date and a time passes over a character. -/
def Item.passes (item : Item) (c : Char) : Bool :=
  match item with
  | .oneOf choices => c ∈ choices
  | .blanks => Text.isBlank c
  | _ => false

/-- What a format of a date and time is made of. -/
structure FormatParts where
  year : Digits := .signed 4
  /-- The digits of all other numbers. -/
  number : Digits := .upTo 2
  between : Item
  hasSecond : Bool
  ending : Format
  year_count : year.count = 4 := by decide
  number_count : number.count = 2 := by decide
  between_mem : between ∈ [.blanks, Format.char 'T', .oneOf ['T', 't', ' ']] := by decide
  ending_mem : ending ∈ [[], [.offset], [.blanks, .offset], [.strictOffset]] := by decide

namespace FormatParts

/-- The items of a second and its fraction. -/
def secondItems (parts : FormatParts) : Format :=
  if parts.hasSecond then [Format.char ':', .number .second parts.number, .fraction] else []

/-- The format with the given parts. -/
def format (parts : FormatParts) : Format :=
  .number .year parts.year :: Format.char '-' :: .number .month parts.number ::
    Format.char '-' :: .number .day parts.number :: parts.between ::
      .number .hour parts.number :: Format.char ':' :: .number .minute parts.number ::
        (parts.secondItems ++ parts.ending)

/-- The parts of the formats with an offset. -/
def withOffset : List FormatParts :=
  [{ year := .exactly 4, number := .exactly 2, between := .oneOf ['T', 't', ' '], hasSecond := true
     ending := [.strictOffset] },
    { between := .blanks, hasSecond := true, ending := [.offset] },
    { between := Format.char 'T', hasSecond := true, ending := [.offset] },
    { between := .blanks, hasSecond := true, ending := [.blanks, .offset] },
    { between := .blanks, hasSecond := false, ending := [.offset] },
    { between := Format.char 'T', hasSecond := false, ending := [.offset] }]

/-- The parts of the formats without an offset. -/
def withoutOffset : List FormatParts :=
  [{ between := .blanks, hasSecond := true, ending := [] },
    { between := Format.char 'T', hasSecond := true, ending := [] },
    { between := .blanks, hasSecond := false, ending := [] },
    { between := Format.char 'T', hasSecond := false, ending := [] }]

theorem map_format_withOffset : withOffset.map format = Format.withOffset :=
  rfl

theorem map_format_withoutOffset : withoutOffset.map format = Format.withoutOffset :=
  rfl

/-- Whether the end of a format is for an offset that is spelled in a certain way, or for none. -/
def takes (parts : FormatParts) : Option SpelledOffset → Bool
  | none => parts.ending = []
  | some offset => parts.ending ∈ [[.offset], [.blanks, .offset]] ∨
      parts.ending = [.strictOffset] ∧ offset.hasColon

/-- Whether a format has the parts of a text. -/
def fits (parts : FormatParts) (separator : Char) (time : SpelledTime)
    (offset : Option SpelledOffset) : Bool :=
  parts.between.passes separator && parts.hasSecond == time.second.isSome && parts.takes offset

end FormatParts

/-! ## What formats read -/

namespace FormatParts

/-- The ending of a format reads an offset, or nothing. -/
theorem readAll_ending (parts : FormatParts) {f : Fields} (hf : f.offset = none)
    (offset : Option SpelledOffset) :
    Format.readAll parts.ending f (offset.elim [] SpelledOffset.text) =
      if parts.takes offset then some { f with offset := offset.map SpelledOffset.seconds }
      else none := by
  obtain ⟨year, number, between, hasSecond, ending, -, -, -, hending⟩ := parts
  simp only [List.mem_cons, List.not_mem_nil, or_false] at hending
  cases offset with
  | none =>
    have hnone : { f with offset := none } = f := by rw [← hf]
    rcases hending with rfl | rfl | rfl | rfl
    · exact congrArg some hnone.symm
    · rfl
    · rfl
    · rfl
  | some offset =>
    have hlast : Format.readAll [.offset] f offset.text =
        some { f with offset := some offset.seconds } :=
      Format.readAll_cons_of_read (offset.read_offset f)
    rcases hending with rfl | rfl | rfl | rfl
    · rfl
    · exact hlast
    · refine Eq.trans ?_ hlast
      exact Format.readAll_cons_of_read (congrArg (fun s => some (f, s)) offset.trimStart_text)
    · have hread := offset.read_strictOffset f
      cases hcolon : offset.hasColon with
      | false =>
        rw [hcolon] at hread
        refine (Format.readAll_cons_of_read_eq_none hread).trans ?_
        simp [takes, hcolon]
      | true =>
        rw [hcolon] at hread
        refine (Format.readAll_cons_of_read hread).trans ?_
        simp [takes, hcolon, Format.readAll, Format.readFrom]

/-- No ending reads a second. -/
theorem readAll_ending_colon (parts : FormatParts) (f : Fields) (s : List Char) :
    Format.readAll parts.ending f (':' :: s) = none := by
  obtain ⟨year, number, between, hasSecond, ending, -, -, -, hending⟩ := parts
  simp only [List.mem_cons, List.not_mem_nil, or_false] at hending
  rcases hending with rfl | rfl | rfl | rfl <;> rfl

/-- What has been read of a date and a time, with nothing behind the minute. -/
def minuteFields (date : Date) (time : SpelledTime) : Fields where
  year := some date.year
  month := some date.month
  day := some date.day
  hour := some time.hour
  minute := some time.minute

/-- What is to be read of a date, a time and an offset. -/
def fields (date : Date) (time : SpelledTime) (offset : Option SpelledOffset) : Fields where
  year := some date.year
  month := some date.month
  day := some date.day
  hour := some time.hour
  minute := some time.minute
  second := time.second.map fun s => s.second.val
  nanosecond := time.second.elim 0 fun s => billionths s.fraction
  offset := offset.map SpelledOffset.seconds

/-- What stands behind the minute is read by a format with the same parts. -/
theorem readAll_second (parts : FormatParts) (date : Date) (time : SpelledTime)
    (offset : Option SpelledOffset) :
    Format.readAll (parts.secondItems ++ parts.ending) (minuteFields date time)
        (time.second.elim [] SpelledSecond.text ++ offset.elim [] SpelledOffset.text) =
      if parts.hasSecond == time.second.isSome && parts.takes offset then
        some (fields date time offset)
      else none := by
  have hhead : ∀ c ∈ (offset.elim [] SpelledOffset.text).head?, c ∈ ['+', '-'] := by
    cases offset with
    | none => nofun
    | some offset =>
      obtain ⟨sign, s, hcons, hsign⟩ := offset.exists_cons_text
      rw [Option.elim_some, hcons]
      rintro _ ⟨⟩
      exact hsign
  obtain ⟨hour, minute, second⟩ := time
  unfold secondItems
  cases hparts : parts.hasSecond with
  | false =>
    cases second with
    | none => exact parts.readAll_ending rfl offset
    | some second => exact parts.readAll_ending_colon _ _
  | true =>
    cases second with
    | none =>
      refine Format.readAll_char_of_ne fun hcolon => ?_
      exact absurd (hhead _ hcolon) (by decide)
    | some second =>
      have hdigit : NoDigit (offset.elim [] SpelledOffset.text) := fun c hc => by
        rcases List.mem_pair.1 (hhead c hc) with rfl | rfl <;> rfl
      have hpoint : (offset.elim [] SpelledOffset.text).head? ≠ some '.' := fun hpoint =>
        absurd (hhead _ hpoint) (by decide)
      have hsecond := second.second.isLt
      rw [Option.elim_some, SpelledSecond.text, List.cons_append, List.append_assoc, if_pos rfl,
        List.cons_append, List.cons_append, List.cons_append, List.nil_append, Format.readAll_char,
        Format.readAll_twoDigits (by omega) parts.number_count
          (by rw [Fields.set, if_pos (by omega)]),
        Format.readAll_cons_of_read
          (Item.read_fraction (List.all_eq_true.1 second.isDigit) hdigit hpoint rfl),
        parts.readAll_ending rfl]
      rfl

/-- Whether a time is read behind a separator depends on what the format has there. -/
theorem readAll_between (parts : FormatParts) {separator : Char}
    (hseparator : separator ∈ [' ', 'T']) (field : Field) (format : Format) (f : Fields)
    {s : List Char} (hs : Text.trimStart s = s) :
    Format.readAll (parts.between :: .number field parts.number :: format) f (separator :: s) =
      if parts.between.passes separator then
        Format.readAll (.number field parts.number :: format) f s
      else none := by
  have hletter : Format.readAll (.number field parts.number :: format) f ('T' :: s) = none := by
    refine Format.readAll_cons_of_read_eq_none ?_
    rw [Item.read,
      Digits.read_cons_eq_none (by rw [parts.number_count]; decide) rfl rfl (by decide)]
    rfl
  have hbetween := parts.between_mem
  simp only [List.mem_cons, List.not_mem_nil, or_false] at hbetween hseparator
  rcases hbetween with h | h | h <;> rw [h]
  · rcases hseparator with rfl | rfl
    · rw [if_pos (show Item.blanks.passes ' ' = true by decide)]
      exact Format.readAll_blanks hs
    · have hread : Item.blanks.read f ('T' :: s) = some (f, 'T' :: s) := by
        rw [Item.read, Text.trimStart, List.dropWhile_cons_of_neg (by decide)]
      rw [if_neg (show ¬Item.blanks.passes 'T' = true by decide)]
      exact (Format.readAll_cons_of_read hread).trans hletter
  · rcases hseparator with rfl | rfl
    · exact Format.readAll_char_of_ne (by simp)
    · exact Format.readAll_char 'T'
  · rw [if_pos (by rcases hseparator with rfl | rfl <;> decide)]
    exact Format.readAll_cons_of_read (if_pos (by rcases hseparator with rfl | rfl <;> decide))

section Read

variable {date : Date} (hyear : 0 ≤ date.year ∧ date.year ≤ 9999)
include hyear

/-- A format reads what is spelled exactly if it has the same parts. -/
theorem read_spelled (parts : FormatParts) {separator : Char} (hseparator : separator ∈ [' ', 'T'])
    (time : SpelledTime) (offset : Option SpelledOffset) :
    parts.format.read (date.spelled ++ separator :: (time.text ++
        offset.elim [] SpelledOffset.text)) =
      if parts.fits separator time offset then some (fields date time offset) else none := by
  have hsecond := parts.readAll_second date time offset
  rw [minuteFields] at hsecond
  rw [Format.read_eq_readAll, format,
    Format.readAll_date _ _ _ hyear parts.year_count parts.number_count,
    readAll_between parts hseparator _ _ _ (time.trimStart_text _),
    Format.readAll_hourMinute _ _ _ time parts.number_count, hsecond, fits, Bool.and_assoc]
  cases hpasses : parts.between.passes separator <;> rfl

/-- A date alone is read by no format of a date and time. -/
theorem read_date (parts : FormatParts) : parts.format.read date.spelled = none := by
  have hread := Format.readAll_date (parts.between :: .number .hour parts.number ::
    Format.char ':' :: .number .minute parts.number :: (parts.secondItems ++ parts.ending)) {} []
      hyear parts.year_count parts.number_count
  rw [List.append_nil] at hread
  rw [Format.read_eq_readAll, format, hread]
  have hnumber : ∀ f, (Item.number .hour parts.number).read f [] = none := by
    intro f
    rw [Item.read, Digits.read_nil (by rw [parts.number_count]; decide)]
    rfl
  have hbetween := parts.between_mem
  simp only [List.mem_cons, List.not_mem_nil, or_false] at hbetween
  rcases hbetween with h | h | h <;> rw [h]
  · exact (Format.readAll_cons_of_read rfl).trans (Format.readAll_cons_of_read_eq_none (hnumber _))
  · rfl
  · rfl

/-- Of the formats that are tried, those with the same parts read the same. -/
theorem findSome?_read_spelled (formats : List FormatParts) {separator : Char}
    (hseparator : separator ∈ [' ', 'T']) (time : SpelledTime) (offset : Option SpelledOffset)
    {α : Type} (g : Fields → Option α) :
    (formats.map format).findSome? (fun format => (format.read (date.spelled ++ separator ::
        (time.text ++ offset.elim [] SpelledOffset.text))).bind g) =
      if formats.any (·.fits separator time offset) then g (fields date time offset) else none := by
  induction formats with
  | nil => rfl
  | cons parts formats ih =>
    rw [List.map_cons, List.findSome?_cons, parts.read_spelled hyear hseparator, ih, List.any_cons]
    cases hfits : parts.fits separator time offset with
    | false => rfl
    | true =>
      rw [if_pos rfl, Option.bind_some, Bool.true_or, if_pos rfl]
      cases hg : g (fields date time offset) with
      | none => exact ite_self none
      | some a => rfl

end Read

variable {separator : Char} (hseparator : separator ∈ [' ', 'T']) (time : SpelledTime)
  (offset : Option SpelledOffset)
include hseparator

/-- There is a format with an offset for every text with one, and for no other. -/
theorem any_fits_withOffset :
    withOffset.any (·.fits separator time offset) = offset.isSome := by
  obtain ⟨hour, minute, second⟩ := time
  rcases List.mem_pair.1 hseparator with rfl | rfl <;> cases second <;>
    rcases offset with - | ⟨-, -, -, - | -⟩ <;> rfl

theorem any_fits_withoutOffset :
    withoutOffset.any (·.fits separator time offset) = offset.isNone := by
  obtain ⟨hour, minute, second⟩ := time
  rcases List.mem_pair.1 hseparator with rfl | rfl <;> cases second <;>
    rcases offset with - | ⟨-, -, -, - | -⟩ <;> rfl

end FormatParts

end TokenInventory
