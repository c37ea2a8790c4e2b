import Mathlib.Algebra.Group.Nat.Defs
import Mathlib.Data.List.Basic
import TokenInventory.Calendar.Format
import TokenInventory.Proofs.Text.Blank
import TokenInventory.Proofs.Text.Decimal

/-!
# Numbers of fixed width and fractions

A number with as many digits as an item may take is read as what it denotes, whatever follows it
(`Digits.read_append`), and padding gives a number its digits (`Instant.isDigits_padded`). A
fraction of a second of any length is read to its end, and cut to billionths
(`Item.read_fraction`).
-/

namespace TokenInventory

/-! ## Padded numbers -/

namespace Instant

theorem toList_padded (width n : Nat) : (padded width n).toList =
    List.replicate (width - (Nat.toDigits 10 n).length) '0' ++ Nat.toDigits 10 n :=
  String.toList_ofList

theorem isDigits_padded (width n : Nat) : Text.IsDigits (padded width n).toList n := by
  rw [toList_padded]
  refine ⟨List.append_ne_nil_of_right_ne_nil _ Nat.toDigits_ne_nil, ?_, ?_⟩
  · refine List.forall_mem_append.2 ⟨fun c hc => ?_, Text.isDigit_of_mem_toDigits⟩
    rw [List.eq_of_mem_replicate hc]
    rfl
  · rw [Nat.ofDigitChars_append, Nat.ofDigitChars_replicate_zero, Nat.mul_zero,
      Nat.ofDigitChars_ten_toDigits]

theorem length_padded {width n : Nat} (hwidth : 0 < width) (h : n < 10 ^ width) :
    (padded width n).toList.length = width := by
  have hlength := (Nat.length_toDigits_le_iff (by decide) hwidth).2 h
  rw [toList_padded, List.length_append, List.length_replicate]
  omega

end Instant

/-! ## Numbers -/

/-- Whether a text does not go on with a digit. -/
def NoDigit (s : List Char) : Prop :=
  ∀ c ∈ s.head?, c.isDigit = false

theorem takeDigits_append_of_noDigit {s rest : List Char} (limit : Nat)
    (hs : ∀ c ∈ s, c.isDigit = true) (hrest : NoDigit rest) :
    takeDigits limit (s ++ rest) = (s.take limit, s.drop limit ++ rest) := by
  induction limit generalizing s with
  | zero => rfl
  | succ limit ih =>
    cases s with
    | nil =>
      cases rest with
      | nil => rfl
      | cons c rest =>
        rw [List.nil_append, takeDigits, hrest c rfl]
        rfl
    | cons c s =>
      rw [List.forall_mem_cons] at hs
      rw [List.cons_append, takeDigits, if_pos hs.1, ih hs.2]
      rfl

theorem takeDigits_length_append {s : List Char} (hs : ∀ c ∈ s, c.isDigit = true)
    (rest : List Char) : takeDigits s.length (s ++ rest) = (s, rest) := by
  induction s with
  | nil => cases rest <;> rfl
  | cons c s ih =>
    rw [List.forall_mem_cons] at hs
    rw [List.length_cons, List.cons_append, takeDigits, if_pos hs.1, ih hs.2]

namespace Digits

/-- The greatest number of digits without a sign. -/
def count : Digits → Nat
  | exactly n | upTo n | signed n => n

/-- Whether there may be fewer digits. -/
def allows (length : Nat) : Digits → Bool
  | exactly n => length == n
  | _ => true

/-- Digits are read as what they denote, unless there are too few of them. -/
theorem read_of_takeDigits {s rest : List Char} {n : Nat} (digits : Digits)
    (hs : Text.IsDigits s n) (htake : takeDigits digits.count (s ++ rest) = (s, rest)) :
    digits.read (s ++ rest) = if digits.allows s.length then some ((n : Int), rest) else none := by
  have hnat : Text.readNat s = some n := Text.readNat_eq_some_iff.2 hs
  obtain ⟨c, tail, hcons⟩ := List.exists_cons_of_ne_nil hs.ne_nil
  have hc : c.isDigit = true := hs.isDigit c (hcons ▸ List.mem_cons_self)
  have htrim : Text.trimStart (s ++ rest) = s ++ rest := by
    rw [hcons]
    exact Text.trimStart_cons_of_isDigit hc _
  cases digits with
  | exactly limit =>
    simp only [count] at htake
    simp only [read, htake, hnat, allows, beq_iff_eq]
    rfl
  | upTo limit =>
    simp only [count] at htake
    simp only [read, htrim, takeNumber?, htake, hnat]
    rfl
  | signed limit =>
    have hsign : ∀ sign ∈ ['-', '+'], ∀ s', s ++ rest ≠ sign :: s' := by
      intro sign hsign s' heq
      rw [hcons] at heq
      obtain rfl : c = sign := (List.cons.inj heq).1
      exact Text.not_mem_of_all rfl hc hsign
    simp only [count] at htake
    simp only [read, htrim]
    split
    · next heq => exact absurd heq (hsign _ (by decide) _)
    · next heq => exact absurd heq (hsign _ (by decide) _)
    · simp only [takeNumber?, htake, hnat]
      rfl

/-- A number with all the digits it may have is read, whatever follows. -/
theorem read_append {s : List Char} {n : Nat} (digits : Digits) (hs : Text.IsDigits s n)
    (hlength : s.length = digits.count) (rest : List Char) :
    digits.read (s ++ rest) = some ((n : Int), rest) := by
  have htake := takeDigits_length_append hs.isDigit rest
  rw [hlength] at htake
  rw [read_of_takeDigits digits hs htake, hlength]
  cases digits with
  | exactly limit => exact if_pos (beq_self_eq_true limit)
  | upTo | signed => rfl

theorem read_nil {digits : Digits} (hcount : digits.count ≠ 0) : digits.read [] = none := by
  cases digits with
  | exactly limit =>
    cases limit with
    | zero => exact absurd rfl hcount
    | succ limit => rfl
  | upTo limit | signed limit => cases limit <;> rfl

/-- A number does not begin with a letter or a mark. -/
theorem read_cons_eq_none {digits : Digits} (hcount : digits.count ≠ 0) {c : Char}
    (hdigit : c.isDigit = false) (hblank : Text.isBlank c = false) (hsign : c ∉ ['-', '+'])
    (s : List Char) : digits.read (c :: s) = none := by
  have htake : ∀ limit, (takeDigits limit (c :: s)).1 = [] := by
    rintro (_ | limit)
    · rfl
    · rw [takeDigits, hdigit]
      rfl
  have htrim : Text.trimStart (c :: s) = c :: s :=
    List.dropWhile_cons_of_neg (by rw [hblank]; decide)
  cases digits with
  | exactly limit =>
    simp only [read, htake, List.length_nil]
    exact if_neg hcount.symm
  | upTo limit => simp only [read, htrim, takeNumber?, htake, Text.readNat, Option.map_none]
  | signed limit =>
    simp only [read, htrim]
    split
    · next heq => exact absurd (List.cons.inj heq).1 (by rintro rfl; exact hsign (by decide))
    · next heq => exact absurd (List.cons.inj heq).1 (by rintro rfl; exact hsign (by decide))
    · simp only [takeNumber?, htake, Text.readNat, Option.map_none]

end Digits

/-! ## Fractions -/

/-- The billionths that the digits of a fraction stand for, cut where they end. -/
def billionths (fraction : List Char) : Nat :=
  Nat.ofDigitChars 10 fraction 0 * 10 ^ 9 / 10 ^ fraction.length

/-- A fraction with the given digits, if there are any. -/
def fractionText (fraction : List Char) : List Char :=
  if fraction = [] then [] else '.' :: fraction

theorem ofDigitChars_lt {s : List Char} (hs : ∀ c ∈ s, c.isDigit = true) :
    Nat.ofDigitChars 10 s 0 < 10 ^ s.length := by
  induction s with
  | nil => exact Nat.one_pos
  | cons c s ih =>
    rw [List.forall_mem_cons] at hs
    have hc : c.toNat ≤ 57 := (Char.isDigit_iff_toNat.1 hs.1).2
    have hvalue : '0'.toNat = 48 := rfl
    have hbound : 10 ^ s.length * (c.toNat - '0'.toNat) ≤ 10 ^ s.length * 9 :=
      Nat.mul_le_mul_left _ (by omega)
    have hrest := ih hs.2
    rw [Nat.ofDigitChars_cons, Nat.mul_zero, Nat.zero_add, Nat.ofDigitChars_eq_ofDigitChars_zero,
      List.length_cons, Nat.pow_succ]
    omega

/-- The first nine digits of a fraction are its billionths. -/
theorem billionths_eq {s : List Char} (hs : ∀ c ∈ s, c.isDigit = true) :
    billionths s = Nat.ofDigitChars 10 (s.take 9) 0 * 10 ^ (9 - (s.take 9).length) := by
  rcases Nat.le_total s.length 9 with hle | hge
  · have hsplit : 10 ^ 9 = 10 ^ (9 - s.length) * 10 ^ s.length := by
      rw [← Nat.pow_add, Nat.sub_add_cancel hle]
    rw [List.take_of_length_le hle, billionths, hsplit, ← Nat.mul_assoc,
      Nat.mul_div_cancel _ (Nat.pow_pos (by decide))]
  · have hfirst : (s.take 9).length = 9 := List.length_take_of_le hge
    have hlater : Nat.ofDigitChars 10 (s.drop 9) 0 < 10 ^ (s.drop 9).length :=
      ofDigitChars_lt fun c hc => hs c (List.mem_of_mem_drop hc)
    have hvalue : Nat.ofDigitChars 10 s 0 = 10 ^ (s.drop 9).length *
        Nat.ofDigitChars 10 (s.take 9) 0 + Nat.ofDigitChars 10 (s.drop 9) 0 := by
      rw [← Nat.ofDigitChars_eq_ofDigitChars_zero, ← Nat.ofDigitChars_append,
        List.take_append_drop]
    have hlength : 10 ^ s.length = 10 ^ (s.drop 9).length * 10 ^ 9 := by
      rw [← Nat.pow_add, List.length_drop, Nat.sub_add_cancel hge]
    rw [billionths, hlength, Nat.mul_div_mul_right _ _ (Nat.pow_pos (by decide)), hvalue, hfirst,
      Nat.mul_add_div (Nat.pow_pos (by decide)), Nat.div_eq_of_lt hlater, Nat.sub_self,
      Nat.pow_zero, Nat.mul_one, Nat.add_zero]

theorem takeFraction?_append {s rest : List Char} (hne : s ≠ [])
    (hs : ∀ c ∈ s, c.isDigit = true) (hrest : NoDigit rest) :
    takeFraction? (s ++ rest) = some (billionths s, rest) := by
  have hfirst : Text.IsDigits (s.take 9) (Nat.ofDigitChars 10 (s.take 9) 0) :=
    ⟨by simp [hne], fun c hc => hs c (List.mem_of_mem_take hc), rfl⟩
  have hlater : (s.drop 9 ++ rest).dropWhile Char.isDigit = rest := by
    rw [List.dropWhile_append_of_pos fun c hc => hs c (List.mem_of_mem_drop hc)]
    cases rest with
    | nil => rfl
    | cons c rest => exact List.dropWhile_cons_of_neg (by rw [hrest c rfl]; decide)
  rw [takeFraction?, takeDigits_append_of_noDigit 9 hs hrest, billionths_eq hs]
  simp only [Text.readNat_eq_some_iff.2 hfirst, hlater]
  rfl

/-- A fraction is read to its end, and so is none. -/
theorem Item.read_fraction {fraction rest : List Char} {f : Fields}
    (hdigits : ∀ c ∈ fraction, c.isDigit = true) (hrest : NoDigit rest)
    (hpoint : rest.head? ≠ some '.') (hf : f.nanosecond = 0) :
    Item.fraction.read f (fractionText fraction ++ rest) =
      some ({ f with nanosecond := billionths fraction }, rest) := by
  by_cases hnil : fraction = []
  · have hzero : { f with nanosecond := billionths fraction } = f := by
      rw [hnil, show billionths [] = f.nanosecond from hf.symm]
    rw [hzero, fractionText, if_pos hnil, List.nil_append]
    simp only [read]
    split
    · exact absurd rfl hpoint
    · rfl
  · rw [fractionText, if_neg hnil, List.cons_append]
    simp only [read, takeFraction?_append hnil hdigits hrest]
    rfl

end TokenInventory
