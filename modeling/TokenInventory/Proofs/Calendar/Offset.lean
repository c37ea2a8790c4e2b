import Mathlib.Data.List.Basic
import TokenInventory.Calendar.Spelling
import TokenInventory.Proofs.Text.Blank

/-!
# Texts with an offset

A text carries an offset if it ends in one (`EndsInOffset`). Formats with an offset read only such
texts. Formats without one read none of them: they have no sign after the hyphen before the day, and
what follows the sign of an offset would have to be the day and then a time without a colon in it
(`Spelling.reading?_eq_none_of_endsInOffset`). So the texts that stand for an instant by themselves
are those that end in an offset (`Spelling.exists_instant_iff`), and they stand for the same instant
in every zone (`readInstant_of_endsInOffset`).
-/

namespace TokenInventory

/-- Whether a text is an offset from universal time: the letter `Z`, or a sign and hours and minutes
of two digits each, with any colons and blanks between them. -/
inductive IsOffset : List Char → Prop
  | universal {c : Char} : c ∈ ['Z', 'z'] → IsOffset [c]
  | signed {sign h₁ h₂ m₁ m₂ : Char} {gap : List Char} :
      sign ∈ ['+', '-', '−'] → h₁.isDigit = true → h₂.isDigit = true →
        (∀ c ∈ gap, isOffsetSeparator c = true) → m₁.isDigit = true → m₂.isDigit = true →
          IsOffset (sign :: h₁ :: h₂ :: (gap ++ [m₁, m₂]))

/-- Whether a text carries an offset. -/
def EndsInOffset (s : List Char) : Prop :=
  ∃ offset, offset <:+ s ∧ IsOffset offset

/-! ## What items read -/

theorem takeDigits_append (limit : Nat) (s : List Char) :
    (takeDigits limit s).1 ++ (takeDigits limit s).2 = s ∧
      ∀ c ∈ (takeDigits limit s).1, c.isDigit = true := by
  induction limit generalizing s with
  | zero => exact ⟨rfl, nofun⟩
  | succ limit ih =>
    cases s with
    | nil => exact ⟨rfl, nofun⟩
    | cons c s =>
      rw [takeDigits]
      split
      · next hc => exact ⟨congrArg (c :: ·) (ih s).1, List.forall_mem_cons.2 ⟨hc, (ih s).2⟩⟩
      · exact ⟨rfl, nofun⟩

theorem takeNumber?_eq_some {limit n : Nat} {s rest : List Char}
    (h : takeNumber? limit s = some (n, rest)) :
    ∃ digits, s = digits ++ rest ∧ ∀ c ∈ digits, c.isDigit = true := by
  obtain ⟨_, -, ⟨⟩⟩ := Option.map_eq_some_iff.1 h
  obtain ⟨happend, hdigits⟩ := takeDigits_append limit s
  exact ⟨_, happend.symm, hdigits⟩

theorem takeNumber?_two {c d : Char} (hc : c.isDigit = true) (hd : d.isDigit = true)
    (s : List Char) : ∃ n, takeNumber? 2 (c :: d :: s) = some (n, s) := by
  simp [takeNumber?, takeDigits, hc, hd, Text.readNat, Text.readDigits]

/-- Two digits. -/
theorem Digits.read_exactly_two {n : Int} {s rest : List Char}
    (h : (exactly 2).read s = some (n, rest)) :
    ∃ c d, s = c :: d :: rest ∧ c.isDigit = true ∧ d.isDigit = true := by
  simp only [read, Option.ite_none_right_eq_some] at h
  obtain ⟨hlength, h⟩ := h
  obtain ⟨_, -, ⟨⟩⟩ := Option.map_eq_some_iff.1 h
  obtain ⟨happend, hdigits⟩ := takeDigits_append 2 s
  obtain ⟨c, d, hcd⟩ := List.length_eq_two.1 hlength
  rw [hcd] at happend hdigits
  exact ⟨c, d, happend.symm, hdigits c (by simp), hdigits d (by simp)⟩

/-- The characters of a number. -/
theorem Digits.exists_append_of_read {digits : Digits} {n : Int} {s rest : List Char}
    (h : digits.read s = some (n, rest)) :
    ∃ front, s = front ++ rest ∧ ((∃ limit, digits = .signed limit) ∨
      ∀ c ∈ front, c.isDigit = true ∨ Text.isBlank c = true) := by
  cases digits with
  | exactly count =>
    simp only [read, Option.ite_none_right_eq_some] at h
    obtain ⟨-, h⟩ := h
    obtain ⟨_, -, ⟨⟩⟩ := Option.map_eq_some_iff.1 h
    obtain ⟨happend, hdigits⟩ := takeDigits_append count s
    exact ⟨_, happend.symm, .inr fun c hc => .inl (hdigits c hc)⟩
  | upTo count =>
    obtain ⟨_, hnumber, ⟨⟩⟩ := Option.map_eq_some_iff.1 h
    obtain ⟨blank, hblank, hblanks⟩ := Text.exists_append_trimStart s
    obtain ⟨front, hfront, hdigits⟩ := takeNumber?_eq_some hnumber
    refine ⟨blank ++ front, by rw [List.append_assoc, ← hfront, ← hblank], .inr fun c hc => ?_⟩
    exact (List.mem_append.1 hc).elim (fun hc => .inr (hblanks c hc)) fun hc => .inl (hdigits c hc)
  | signed count =>
    obtain ⟨blank, hblank, -⟩ := Text.exists_append_trimStart s
    suffices hfront : ∃ front, Text.trimStart s = front ++ rest by
      obtain ⟨front, hfront⟩ := hfront
      exact ⟨blank ++ front, by rw [List.append_assoc, ← hfront, ← hblank], .inl ⟨count, rfl⟩⟩
    simp only [read] at h
    split at h <;> obtain ⟨_, hnumber, ⟨⟩⟩ := Option.map_eq_some_iff.1 h <;>
      obtain ⟨front, hfront, -⟩ := takeNumber?_eq_some hnumber
    · exact ⟨_ :: front, by rw [‹Text.trimStart s = _›, hfront]; rfl⟩
    · exact ⟨_ :: front, by rw [‹Text.trimStart s = _›, hfront]; rfl⟩
    · exact ⟨front, hfront⟩

/-- The first characters of offsets. -/
def offsetMarks : List Char :=
  ['+', '-', '−', 'Z', 'z']

theorem not_mem_offsetMarks_of_isDigit {c : Char} : c.isDigit = true → c ∉ offsetMarks :=
  Text.not_mem_of_all rfl

theorem not_mem_offsetMarks_of_isBlank {c : Char} : Text.isBlank c = true → c ∉ offsetMarks :=
  Text.not_mem_of_all rfl

theorem exists_append_of_takeSign? {n : Int} {s rest : List Char}
    (h : takeSign? s = some (n, rest)) : ∃ sign ∈ ['+', '-', '−'], s = sign :: rest := by
  unfold takeSign? at h
  split at h <;> cases h
  exacts [⟨'+', by decide, rfl⟩, ⟨'-', by decide, rfl⟩, ⟨'−', by decide, rfl⟩]

/-- What is read as an offset is one, whatever is left out between the hours and the minutes. -/
theorem exists_append_of_takeOffset? {skip : List Char → Option (List Char)} {n : Int}
    {s rest : List Char} (hskip : ∀ s rest, skip s = some rest →
      ∃ gap, s = gap ++ rest ∧ ∀ c ∈ gap, isOffsetSeparator c = true)
    (h : takeOffset? skip s = some (n, rest)) :
    ∃ offset, s = offset ++ rest ∧ IsOffset offset := by
  simp only [takeOffset?, Option.bind_eq_bind, Option.bind_eq_some_iff,
    Option.ite_none_right_eq_some] at h
  obtain ⟨⟨_, s₁⟩, hread₁, ⟨_, s₂⟩, hread₂, s₃, hread₃, ⟨_, s₄⟩, hread₄, -, ⟨⟩⟩ := h
  obtain ⟨sign, hsign, rfl⟩ := exists_append_of_takeSign? hread₁
  obtain ⟨h₁, h₂, rfl, hh₁, hh₂⟩ := Digits.read_exactly_two hread₂
  obtain ⟨gap, rfl, hgap⟩ := hskip _ _ hread₃
  obtain ⟨m₁, m₂, rfl, hm₁, hm₂⟩ := Digits.read_exactly_two hread₄
  exact ⟨_, by simp, .signed hsign hh₁ hh₂ hgap hm₁ hm₂⟩

theorem exists_append_of_takeFraction? {n : Nat} {s rest : List Char}
    (h : takeFraction? s = some (n, rest)) :
    ∃ digits, s = digits ++ rest ∧ ∀ c ∈ digits, c.isDigit = true := by
  obtain ⟨_, -, ⟨⟩⟩ := Option.map_eq_some_iff.1 h
  obtain ⟨happend, hdigits⟩ := takeDigits_append 9 s
  refine ⟨(takeDigits 9 s).1 ++ (takeDigits 9 s).2.takeWhile Char.isDigit, ?_, ?_⟩
  · rw [List.append_assoc, List.takeWhile_append_dropWhile, happend]
  · exact List.forall_mem_append.2 ⟨hdigits, List.all_eq_true.1 List.all_takeWhile⟩

namespace Item

/-- Whether an item reads no mark of an offset. -/
def isPlain : Item → Bool
  | oneOf choices => choices.all (· ∉ offsetMarks)
  | number _ (.signed _) | strictOffset | offset => false
  | _ => true

/-- Whether an item is an offset. -/
def isOffset : Item → Bool
  | strictOffset | offset => true
  | _ => false

/-- An item reads the beginning of a text. A plain item reads no mark of an offset, and an offset
reads a text that ends in one. -/
theorem exists_append_of_read {item : Item} {f f' : Fields} {s rest : List Char}
    (h : item.read f s = some (f', rest)) : ∃ front, s = front ++ rest ∧
      (item.isPlain = true → ∀ c ∈ front, c ∉ offsetMarks) ∧
        (item.isOffset = true → EndsInOffset front) := by
  cases item with
  | oneOf choices =>
    cases s with
    | nil => cases h
    | cons c s =>
      simp only [read, Option.ite_none_right_eq_some] at h
      obtain ⟨hc, ⟨⟩⟩ := h
      refine ⟨[c], rfl, fun hplain => ?_, nofun⟩
      simpa using List.all_eq_true.1 hplain c hc
  | blanks =>
    cases h
    obtain ⟨blank, hblank, hblanks⟩ := Text.exists_append_trimStart s
    exact ⟨blank, hblank, fun _ c hc => not_mem_offsetMarks_of_isBlank (hblanks c hc), nofun⟩
  | number field digits =>
    simp only [read, Option.bind_eq_bind, Option.bind_eq_some_iff] at h
    obtain ⟨⟨n, _⟩, hread, _, -, ⟨⟩⟩ := h
    obtain ⟨front, hfront, hcases⟩ := Digits.exists_append_of_read hread
    refine ⟨front, hfront, fun hplain c hc => ?_, nofun⟩
    rcases hcases with ⟨limit, rfl⟩ | hall
    · cases hplain
    · exact (hall c hc).elim not_mem_offsetMarks_of_isDigit not_mem_offsetMarks_of_isBlank
  | fraction =>
    simp only [read] at h
    split at h
    · obtain ⟨_, hread, ⟨⟩⟩ := Option.map_eq_some_iff.1 h
      obtain ⟨digits, hdigits, hall⟩ := exists_append_of_takeFraction? hread
      refine ⟨'.' :: digits, congrArg ('.' :: ·) hdigits, fun _ => ?_, nofun⟩
      exact List.forall_mem_cons.2
        ⟨by decide, fun c hc => not_mem_offsetMarks_of_isDigit (hall c hc)⟩
    · cases h
      exact ⟨[], rfl, nofun, nofun⟩
  | strictOffset =>
    simp only [read] at h
    split at h
    · cases h
      exact ⟨['Z'], rfl, nofun, fun _ => ⟨['Z'], List.suffix_rfl, .universal (by decide)⟩⟩
    · cases h
      exact ⟨['z'], rfl, nofun, fun _ => ⟨['z'], List.suffix_rfl, .universal (by decide)⟩⟩
    · obtain ⟨_, hread, ⟨⟩⟩ := Option.map_eq_some_iff.1 h
      obtain ⟨front, hfront, hoffset⟩ := exists_append_of_takeOffset? (fun s rest hskip => by
        obtain rfl := Text.eq_append_of_stripPrefix? hskip
        exact ⟨[':'], rfl, by simp [isOffsetSeparator]⟩) hread
      exact ⟨front, hfront, nofun, fun _ => ⟨front, List.suffix_rfl, hoffset⟩⟩
  | offset =>
    obtain ⟨_, hread, ⟨⟩⟩ := Option.map_eq_some_iff.1 h
    obtain ⟨blank, hblank, -⟩ := Text.exists_append_trimStart s
    obtain ⟨front, hfront, hoffset⟩ := exists_append_of_takeOffset? (fun s rest hskip => by
      cases hskip
      exact ⟨_, List.takeWhile_append_dropWhile.symm, List.all_eq_true.1 List.all_takeWhile⟩) hread
    exact ⟨blank ++ front, by rw [List.append_assoc, ← hfront, ← hblank], nofun,
      fun _ => ⟨front, List.suffix_append blank front, hoffset⟩⟩

end Item

/-! ## What formats read -/

namespace Format

variable {s rest : List Char} {f f' : Fields}

theorem readFrom_append (format format' : Format) (f : Fields) (s : List Char) :
    readFrom (format ++ format') f s =
      (readFrom format f s).bind fun read => readFrom format' read.1 read.2 := by
  induction format generalizing f s with
  | nil => rfl
  | cons item format ih =>
    rw [List.cons_append, readFrom, readFrom]
    cases item.read f s with
    | none => rfl
    | some read => exact ih read.1 read.2

theorem eq_cons_of_read_char {c : Char} (h : (char c).read f s = some (f', rest)) :
    s = c :: rest := by
  cases s with
  | nil => cases h
  | cons d s =>
    simp only [char, Item.read, Option.ite_none_right_eq_some, List.mem_singleton] at h
    obtain ⟨rfl, ⟨⟩⟩ := h
    rfl

theorem readFrom_singleton (item : Item) (f : Fields) (s : List Char) :
    readFrom [item] f s = item.read f s := by
  rw [readFrom]
  cases item.read f s <;> rfl

/-- A format reads the beginning of a text, and no mark of an offset if its items are plain. -/
theorem exists_append_of_readFrom {format : Format} (h : format.readFrom f s = some (f', rest)) :
    ∃ front, s = front ++ rest ∧
      (format.all Item.isPlain = true → ∀ c ∈ front, c ∉ offsetMarks) := by
  induction format generalizing f s with
  | nil =>
    cases h
    exact ⟨[], rfl, nofun⟩
  | cons item format ih =>
    rw [readFrom, Option.bind_eq_bind, Option.bind_eq_some_iff] at h
    obtain ⟨⟨f₁, s₁⟩, hitem, hrest⟩ := h
    obtain ⟨front, rfl, hplain, -⟩ := Item.exists_append_of_read hitem
    obtain ⟨front', rfl, hplain'⟩ := ih hrest
    refine ⟨front ++ front', (List.append_assoc ..).symm, fun hall => ?_⟩
    rw [List.all_cons, Bool.and_eq_true] at hall
    exact List.forall_mem_append.2 ⟨hplain hall.1, hplain' hall.2⟩

/-- A text that is read by a format with an offset at its end has one at its end. -/
theorem endsInOffset_of_read {format : Format} {item : Item} (hlast : format.getLast? = some item)
    (hoffset : item.isOffset = true) (h : format.read s = some f) : EndsInOffset s := by
  obtain ⟨front, rfl⟩ := List.getLast?_eq_some_iff.1 hlast
  rw [read_eq_some_iff, readFrom_append, Option.bind_eq_some_iff] at h
  obtain ⟨⟨f₁, s₁⟩, hfront, hrest⟩ := h
  have hitem : item.read f₁ s₁ = some (f, []) := (readFrom_singleton ..).symm.trans hrest
  obtain ⟨before, rfl, -⟩ := exists_append_of_readFrom hfront
  obtain ⟨last, rfl, -, hends⟩ := Item.exists_append_of_read hitem
  obtain ⟨offset, hsuffix, hoffset⟩ := hends hoffset
  rw [List.append_nil]
  exact ⟨offset, hsuffix.trans (List.suffix_append before last), hoffset⟩

/-! ## Texts that end in an offset -/

/-- Whether no text of colons and blanks with two digits behind them is read to its end: this is
what stands behind the hours of an offset. -/
def RefusesMinutes (format : Format) : Prop :=
  ∀ (f f' : Fields) (gap : List Char) (m₁ m₂ : Char), (∀ c ∈ gap, isOffsetSeparator c = true) →
    m₁.isDigit = true → m₂.isDigit = true → format.readFrom f (gap ++ [m₁, m₂]) ≠ some (f', [])

theorem trimStart_gap {gap : List Char} (hgap : ∀ c ∈ gap, isOffsetSeparator c = true) {m₁ : Char}
    (hm₁ : m₁.isDigit = true) (s : List Char) :
    Text.trimStart (gap ++ m₁ :: s) = m₁ :: s ∨
      ∃ gap', (∀ c ∈ gap', isOffsetSeparator c = true) ∧
        Text.trimStart (gap ++ m₁ :: s) = ':' :: (gap' ++ m₁ :: s) := by
  induction gap with
  | nil => exact .inl (Text.trimStart_cons_of_isDigit hm₁ s)
  | cons c gap ih =>
    rw [List.forall_mem_cons] at hgap
    by_cases hblank : Text.isBlank c = true
    · rw [Text.trimStart, List.cons_append, List.dropWhile_cons_of_pos hblank]
      exact ih hgap.2
    · have hcolon : c = ':' := by simpa [isOffsetSeparator, hblank] using hgap.1
      subst hcolon
      exact .inr ⟨gap, hgap.2, List.dropWhile_cons_of_neg hblank⟩

theorem refusesMinutes_nil : RefusesMinutes [] := by
  intro f f' gap m₁ m₂ _ _ _ h
  cases gap <;> cases h

theorem refusesMinutes_hourMinute (format : Format) : RefusesMinutes (hourMinute ++ format) := by
  intro f f' gap m₁ m₂ hgap hm₁ hm₂ h
  simp only [hourMinute, List.cons_append, readFrom, Item.read, Digits.read, Option.bind_eq_bind,
    Option.bind_eq_some_iff] at h
  obtain ⟨_, ⟨_, hhour, _, -, ⟨⟩⟩, _, hcolon, -⟩ := h
  rcases trimStart_gap hgap hm₁ [m₂] with htrim | ⟨gap', -, htrim⟩
  · -- the two digits are the hour, and no colon follows
    obtain ⟨n, hn⟩ := takeNumber?_two hm₁ hm₂ []
    rw [htrim, hn] at hhour
    cases hhour
    cases hcolon
  · rw [htrim] at hhour
    cases hhour

theorem RefusesMinutes.blanks {format : Format} (h : RefusesMinutes format) :
    RefusesMinutes (.blanks :: format) := by
  intro f f' gap m₁ m₂ hgap hm₁ hm₂ hread
  rw [readFrom, Item.read, Option.bind_eq_bind, Option.bind_some] at hread
  rcases trimStart_gap hgap hm₁ [m₂] with htrim | ⟨gap', hgap', htrim⟩
  · rw [htrim] at hread
    exact h f f' [] m₁ m₂ nofun hm₁ hm₂ hread
  · rw [htrim] at hread
    exact h f f' (':' :: gap') m₁ m₂ (List.forall_mem_cons.2 ⟨rfl, hgap'⟩) hm₁ hm₂ hread

theorem refusesMinutes_char_T (format : Format) : RefusesMinutes (char 'T' :: format) := by
  have hnone : ∀ f c s, c ≠ 'T' → readFrom (char 'T' :: format) f (c :: s) = none :=
    fun f c s hc => by simp [readFrom, char, Item.read, hc]
  intro f f' gap m₁ m₂ hgap hm₁ _ h
  cases gap with
  | nil =>
    rw [List.nil_append, hnone] at h
    · cases h
    · rintro rfl
      cases hm₁
  | cons c gap =>
    rw [List.cons_append, hnone] at h
    · cases h
    · rintro rfl
      cases hgap 'T' List.mem_cons_self

/-- A day of two digits is read, and what follows in an offset is not a time. -/
theorem readFrom_day_ne {format : Format} (h : RefusesMinutes format) {mark : Char}
    {tail : List Char} (hoffset : IsOffset (mark :: tail)) (f f' : Fields) :
    readFrom (.number .day (.upTo 2) :: format) f tail ≠ some (f', []) := by
  intro hread
  simp only [readFrom, Item.read, Digits.read, Option.bind_eq_bind,
    Option.bind_eq_some_iff] at hread
  obtain ⟨_, ⟨_, hday, f₁, -, ⟨⟩⟩, hrest⟩ := hread
  cases hoffset with
  | universal => cases hday
  | @signed _ h₁ h₂ m₁ m₂ gap _ hh₁ hh₂ hgap hm₁ hm₂ =>
    obtain ⟨n, hn⟩ := takeNumber?_two hh₁ hh₂ (gap ++ [m₁, m₂])
    rw [Text.trimStart_cons_of_isDigit hh₁, hn] at hday
    cases hday
    exact h f₁ f' gap m₁ m₂ hgap hm₁ hm₂ hrest

theorem mark_of_isOffset {offset : List Char} (h : IsOffset offset) :
    ∃ mark tail, offset = mark :: tail ∧ mark ∈ offsetMarks ∧ ∀ c ∈ tail, c ∉ offsetMarks := by
  cases h with
  | universal hc => exact ⟨_, _, rfl, List.mem_append_right ['+', '-', '−'] hc, nofun⟩
  | signed hsign hh₁ hh₂ hgap hm₁ hm₂ =>
    refine ⟨_, _, rfl, List.mem_append_left ['Z', 'z'] hsign, ?_⟩
    simp only [List.forall_mem_cons, List.forall_mem_append]
    exact ⟨not_mem_offsetMarks_of_isDigit hh₁, not_mem_offsetMarks_of_isDigit hh₂,
      fun c hc => Text.not_mem_of_all rfl (hgap c hc),
      not_mem_offsetMarks_of_isDigit hm₁, not_mem_offsetMarks_of_isDigit hm₂, nofun⟩

/-- What follows the last mark in a text depends on the text alone. -/
theorem takeWhile_reverse_append (before : List Char) {tail : List Char} {mark : Char}
    (hmark : mark ∈ offsetMarks) (htail : ∀ c ∈ tail, c ∉ offsetMarks) :
    ((before ++ mark :: tail).reverse.takeWhile (· ∉ offsetMarks)).reverse = tail := by
  rw [List.reverse_append, List.reverse_cons, List.append_assoc,
    List.takeWhile_append_of_pos (by simpa using htail), List.singleton_append,
    List.takeWhile_cons_of_neg (by simpa using hmark), List.append_nil, List.reverse_reverse]

/-- No date with anything plain behind it, as a time is, is read from a text with an offset. -/
theorem read_eq_none_of_endsInOffset {format : Format} (hplain : format.all Item.isPlain = true)
    (hformat : RefusesMinutes format) {s : List Char} (h : EndsInOffset s) :
    (date ++ format).read s = none := by
  refine Option.eq_none_iff_forall_ne_some.2 fun f hread => ?_
  have hsplit : date ++ format = [.number .year (.signed 4), char '-', .number .month (.upTo 2)] ++
    char '-' :: .number .day (.upTo 2) :: format := rfl
  rw [read_eq_some_iff, hsplit, readFrom_append, Option.bind_eq_some_iff] at hread
  obtain ⟨⟨f₁, s₁⟩, hfront, hrest⟩ := hread
  obtain ⟨front, rfl, -⟩ := exists_append_of_readFrom hfront
  rw [readFrom, Option.bind_eq_bind, Option.bind_eq_some_iff] at hrest
  obtain ⟨⟨f₂, s₂⟩, hhyphen, hday⟩ := hrest
  obtain rfl := eq_cons_of_read_char hhyphen
  obtain ⟨front₂, hs₂, hmarks⟩ := exists_append_of_readFrom hday
  rw [List.append_nil] at hs₂
  subst hs₂
  have hmarks := hmarks (by rw [List.all_cons, hplain]; rfl)
  obtain ⟨offset, ⟨before, happend⟩, hoffset⟩ := h
  obtain ⟨mark, tail, rfl, hmark, htail⟩ := mark_of_isOffset hoffset
  -- the hyphen before the day and the mark of the offset are both the last mark of the text
  have heq := takeWhile_reverse_append before hmark htail
  rw [happend, takeWhile_reverse_append front (by decide) hmarks] at heq
  subst heq
  exact readFrom_day_ne hformat hoffset _ _ hday

end Format

/-! ## Spelled instants -/

/-- A text with an offset does not read as a date or time without one. -/
theorem Spelling.reading?_eq_none_of_endsInOffset {s : List Char} (h : EndsInOffset s) :
    reading? s = none := by
  have htimes : ∀ format ∈ Format.withoutOffset, format.read s = none := by
    simp only [Format.withoutOffset, List.forall_mem_cons]
    exact ⟨Format.read_eq_none_of_endsInOffset (by decide)
        (Format.refusesMinutes_hourMinute _).blanks h,
      Format.read_eq_none_of_endsInOffset (by decide) (Format.refusesMinutes_char_T _) h,
      Format.read_eq_none_of_endsInOffset (by decide)
        (Format.refusesMinutes_hourMinute []).blanks h,
      Format.read_eq_none_of_endsInOffset (by decide) (Format.refusesMinutes_char_T _) h, nofun⟩
  have hdate : Format.date.read s = none :=
    Format.read_eq_none_of_endsInOffset (by decide) Format.refusesMinutes_nil h
  rw [reading?, hdate, List.findSome?_eq_none_iff.2 fun format hformat => by
    rw [htimes format hformat, Option.bind_none]]
  rfl

/-- The texts that stand for an instant by themselves are those that end in an offset. -/
theorem Spelling.exists_instant_iff {s : List Char} {spelling : Spelling}
    (h : ofText? s = some spelling) : (∃ i, spelling = .instant i) ↔ EndsInOffset s := by
  rw [ofText?, Option.orElse_eq_orElse, Option.orElse_eq_or, Option.or_eq_some_iff] at h
  constructor
  · rintro ⟨i, rfl⟩
    rcases h with h | ⟨-, h⟩
    · obtain ⟨_, hread, -⟩ := Option.map_eq_some_iff.1 h
      obtain ⟨format, hformat, hread⟩ := List.exists_of_findSome?_eq_some hread
      obtain ⟨f, hf, -⟩ := Option.bind_eq_some_iff.1 hread
      have hlast : ∀ format ∈ Format.withOffset, ∃ item ∈ [Item.strictOffset, .offset],
          format.getLast? = some item := by decide
      obtain ⟨item, hitem, hlast⟩ := hlast format hformat
      have hoffset : ∀ item ∈ [Item.strictOffset, .offset], item.isOffset = true := by decide
      exact Format.endsInOffset_of_read hlast (hoffset item hitem) hf
    · obtain ⟨_, -, ⟨⟩⟩ := Option.map_eq_some_iff.1 h
  · intro hoffset
    rw [reading?_eq_none_of_endsInOffset hoffset] at h
    rcases h with h | ⟨-, h⟩
    · obtain ⟨i, -, rfl⟩ := Option.map_eq_some_iff.1 h
      exact ⟨i, rfl⟩
    · cases h

/-- A text with an offset stands for the same instant wherever it is read. -/
theorem readInstant_of_endsInOffset {s : List Char} (h : EndsInOffset (Text.trim s))
    (zone zone' : Zone) (placement placement' : Placement) :
    readInstant zone placement s = readInstant zone' placement' s := by
  unfold readInstant
  cases hspelling : Spelling.ofText? (Text.trim s) with
  | none => rfl
  | some spelling =>
    obtain ⟨i, rfl⟩ := (Spelling.exists_instant_iff hspelling).2 h
    rfl

example : readInstant .universal .localTime "2021-06-01".toList ≠
    readInstant (.fixed 3600) .localTime "2021-06-01".toList := by
  decide

/-- A stored text that is placed in universal time stands for the same instant in every zone. -/
theorem readStoredInstant_universalTime (zone zone' : Zone) (s : List Char) :
    readStoredInstant zone .universalTime s = readStoredInstant zone' .universalTime s := by
  unfold readStoredInstant readInstant
  cases Spelling.ofText? (Text.trim s) with
  | none => rfl
  | some spelling => cases spelling <;> rfl

end TokenInventory
