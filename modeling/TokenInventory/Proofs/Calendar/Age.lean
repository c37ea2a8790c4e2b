import TokenInventory.CommandLine.Compile
import TokenInventory.Proofs.Text.Blank
import TokenInventory.Proofs.Text.ByteOffset
import TokenInventory.Proofs.Text.Decimal

/-!
# The spelling of ages

An age is spelled as a number and the letter of its unit, with blanks around both (`Age.IsSpelled`).
Exactly these texts are read, each as the age that it spells, and everything else is malformed
(`Age.ofText?_isSpelled`). A reader may look for the letter in the last byte of the text. It never
cuts a character, because it cuts a text only if the last byte is a character of its own
(`Age.ofLastByte?_eq`).
-/

namespace TokenInventory

open Text

theorem AgeUnit.ofLetter?_eq_some_iff {c : Char} {unit : AgeUnit} :
    ofLetter? c = some unit ↔ c = unit.letter := by
  constructor
  · unfold ofLetter?
    split <;> rintro ⟨⟩ <;> rfl
  · rintro rfl
    cases unit <;> rfl

theorem AgeUnit.utf8Size_letter (unit : AgeUnit) : unit.letter.utf8Size = 1 := by
  cases unit <;> rfl

theorem AgeUnit.isBlank_letter (unit : AgeUnit) : isBlank unit.letter = false := by
  cases unit <;> rfl

namespace Age

/-- Whether a text spells an age. -/
def IsSpelled (s : List Char) (age : Age) : Prop :=
  ∃ amount, IsNumeral amount age.amount ∧ IsPadded s (amount ++ [age.unit.letter])

theorem trim_numeral_append_letter {amount : List Char} {i : Int} (h : IsNumeral amount i)
    (unit : AgeUnit) : trim (amount ++ [unit.letter]) = amount ++ [unit.letter] := by
  refine trim_of_forall_not_blank (List.forall_mem_append.2 ⟨fun c => h.isBlank_of_mem, ?_⟩)
  simpa using unit.isBlank_letter

/-! ## Reading -/

/-- The age of a number of units. -/
def ofParts? (amount : List Char) (unit : AgeUnit) : Option Age :=
  (readInt64 amount).bind fun n =>
    if h : 0 ≤ n.toInt ∧ n.toInt.toNat ≤ maxAge then
      h.elim fun _ hle => some ⟨n.toInt.toNat, unit, hle⟩
    else none

theorem ofParts?_eq_some_iff {amount : List Char} {unit : AgeUnit} {age : Age} :
    ofParts? amount unit = some age ↔ IsNumeral amount age.amount ∧ age.unit = unit := by
  rw [ofParts?, Option.bind_eq_some_iff]
  constructor
  · rintro ⟨n, hn, hage⟩
    split at hage
    · next hrange =>
      cases hage
      have hn := readInt64_eq_some_iff.1 hn
      rw [← Int.toNat_of_nonneg hrange.1] at hn
      exact ⟨hn, rfl⟩
    · cases hage
  · rintro ⟨hnumeral, rfl⟩
    have hle : age.amount ≤ 100000 := age.amount_le
    have htoInt : (Int64.ofInt age.amount).toInt = age.amount :=
      Int64.toInt_ofInt_of_le (by omega) (by omega)
    refine ⟨Int64.ofInt age.amount, readInt64_eq_some_iff.2 (htoInt.symm ▸ hnumeral), ?_⟩
    simp only [htoInt, Int.toNat_natCast]
    exact dif_pos ⟨Int.natCast_nonneg _, age.amount_le⟩

theorem ofText?_of_trim_eq_nil {s : List Char} (h : trim s = []) : ofText? s = none := by
  rw [ofText?, h]
  rfl

theorem ofText?_of_trim_eq_concat {s amount : List Char} {c : Char} (h : trim s = amount ++ [c]) :
    ofText? s = (AgeUnit.ofLetter? c).bind (ofParts? amount) := by
  simp only [ofText?, h, List.getLast?_concat, List.dropLast_concat, Option.bind_some]
  cases AgeUnit.ofLetter? c with
  | none => rfl
  | some unit =>
    rw [Option.bind_some, ofParts?]
    cases readInt64 amount <;> rfl

/-- An age is read from exactly the texts that spell it. -/
theorem ofText?_eq_some_iff {s : List Char} {age : Age} :
    ofText? s = some age ↔ IsSpelled s age := by
  constructor
  · intro h
    rcases List.eq_nil_or_concat (trim s) with hnil | ⟨amount, c, heq⟩
    · rw [ofText?_of_trim_eq_nil hnil] at h
      cases h
    · rw [List.concat_eq_append] at heq
      rw [ofText?_of_trim_eq_concat heq, Option.bind_eq_some_iff] at h
      obtain ⟨unit, hunit, hparts⟩ := h
      obtain ⟨hnumeral, rfl⟩ := ofParts?_eq_some_iff.1 hparts
      obtain rfl := AgeUnit.ofLetter?_eq_some_iff.1 hunit
      exact ⟨amount, hnumeral, heq ▸ isPadded_trim s⟩
  · rintro ⟨amount, hnumeral, hpadded⟩
    have htrim := (isPadded_iff (trim_numeral_append_letter hnumeral _)).1 hpadded
    rw [ofText?_of_trim_eq_concat htrim, AgeUnit.ofLetter?_eq_some_iff.2 rfl, Option.bind_some]
    exact ofParts?_eq_some_iff.2 ⟨hnumeral, rfl⟩

/-- The text of an age spells it. -/
theorem isSpelled_text (age : Age) : IsSpelled age.text.toList age := by
  have htext : age.text.toList = Nat.toDigits 10 age.amount ++ [age.unit.letter] := by
    simp [text, Text.ofNat]
  have hnumeral := isNumeral_writeInt age.amount
  refine ⟨_, hnumeral, (isPadded_iff (trim_numeral_append_letter hnumeral _)).2 ?_⟩
  rw [htext]
  exact trim_numeral_append_letter hnumeral _

/-! ## By the last byte -/

/-- Reads an age by the last byte of the text, if there is one and a character begins with it; all
before it is the number. The result is `none` if the text was cut inside a character or behind its
end. -/
def ofLastByte? (s : List Char) : Option (Option Age) :=
  let s := trim s
  match byteLength s with
  | 0 => some none
  | n + 1 =>
    if isBoundary s n then
      (splitAtByte? n s).map fun (amount, unit) =>
        match unit with
        | [c] => (AgeUnit.ofLetter? c).bind (ofParts? amount)
        | _ => none
    else some none

/-- To read the last byte never cuts a character, and gives the same age. -/
theorem ofLastByte?_eq (s : List Char) : ofLastByte? s = some (ofText? s) := by
  rcases List.eq_nil_or_concat (trim s) with hnil | ⟨amount, c, heq⟩
  · rw [ofText?_of_trim_eq_nil hnil, ofLastByte?, hnil]
    rfl
  · rw [List.concat_eq_append] at heq
    have hboundary := isBoundary_pred_byteLength_iff amount c
    have hlength : byteLength (amount ++ [c]) = byteLength amount + c.utf8Size := by
      rw [byteLength_append, byteLength, byteLength, Nat.add_zero]
    obtain ⟨n, hn⟩ : ∃ n, byteLength (amount ++ [c]) = n + 1 :=
      Nat.exists_eq_add_one.2 (hlength ▸ Nat.add_pos_right _ c.utf8Size_pos)
    rw [hn, Nat.add_sub_cancel] at hboundary
    simp only [ofLastByte?, heq, hn]
    rw [ofText?_of_trim_eq_concat heq]
    split
    · next hcut =>
      have hsize := hboundary.1 hcut
      obtain rfl : n = byteLength amount := by omega
      rw [splitAtByte?_byteLength]
      rfl
    · next hcut =>
      cases hunit : AgeUnit.ofLetter? c with
      | none => rfl
      | some unit =>
        -- the letters of units are one byte long
        obtain rfl := AgeUnit.ofLetter?_eq_some_iff.1 hunit
        exact absurd (hboundary.2 unit.utf8Size_letter) hcut

/-! ## Hours -/

/-- The product of a 64-bit number with a factor, unless it overflows. -/
def times64? (factor : Int) (n : Int64) : Option Int64 :=
  int64? (n.toInt * factor)

/-- The hours of an age by products of 64-bit numbers, unless one of them overflows. -/
def hours64? (age : Age) : Option Int64 :=
  match age.unit with
  | .hours => int64? age.amount
  | .days => (int64? age.amount).bind (times64? 24)
  | .years => ((int64? age.amount).bind (times64? 24)).bind (times64? 365)

theorem exists_int64? {i : Int} (hlow : 0 ≤ i) (hhigh : i ≤ 100000 * 24 * 365) :
    ∃ n, int64? i = some n ∧ n.toInt = i := by
  have htoInt : (Int64.ofInt i).toInt = i := Int64.toInt_ofInt_of_le (by omega) (by omega)
  exact ⟨_, int64?_eq_some_iff.2 htoInt, htoInt⟩

/-- No product overflows. -/
theorem exists_hours64? (age : Age) : ∃ n, age.hours64? = some n ∧ n.toInt = age.hours := by
  obtain ⟨amount, unit, hle⟩ := age
  have hle : amount ≤ 100000 := hle
  obtain ⟨n, hn, hamount⟩ := exists_int64? (i := amount) (by omega) (by omega)
  obtain ⟨d, hd, hdays⟩ := exists_int64? (i := n.toInt * 24) (by omega) (by omega)
  obtain ⟨y, hy, hyears⟩ := exists_int64? (i := d.toInt * 365) (by omega) (by omega)
  have hbind : (int64? amount).bind (times64? 24) = some d := by
    rw [hn, Option.bind_some, ← hd]
    rfl
  cases unit with
  | hours => exact ⟨n, hn, by simp [hours, AgeUnit.inHours, hamount]⟩
  | days => exact ⟨d, hbind, by simp [hours, AgeUnit.inHours, hdays, hamount]⟩
  | years =>
    refine ⟨y, ?_, ?_⟩
    · rw [hours64?, hbind, Option.bind_some, ← hy]
      rfl
    · simp only [hours, AgeUnit.inHours]
      omega

/-- An age is read from exactly the texts that spell it, and everything else is malformed. The text
is not cut inside a character or behind its end. The hours of an age are those of its units and
need no more than 64 bits on the way, and the text of an age is read as that age. -/
theorem ofText?_isSpelled :
    (∀ (s : String) (age : Age), ofText? s.toList = some age ↔ IsSpelled s.toList age) ∧
    (∀ s : String,
      (∃ age, IsSpelled s.toList age ∧ CommandLine.FindRequest.age s = .ok age) ∨
      (¬∃ age, IsSpelled s.toList age) ∧ CommandLine.FindRequest.age s =
        .error (.criterion (.malformed s .expectedAge))) ∧
    (∀ s : String, ofLastByte? s.toList = some (ofText? s.toList)) ∧
    ∀ age : Age, age.amount ≤ 100000 ∧
      (age.hours = match age.unit with
        | .hours => age.amount
        | .days => age.amount * 24
        | .years => age.amount * 24 * 365) ∧
      (∃ n, age.hours64? = some n ∧ n.toInt = age.hours) ∧
      ofText? age.text.toList = some age := by
  refine ⟨fun s age => ofText?_eq_some_iff, fun s => ?_, fun s => ofLastByte?_eq _, fun age =>
    ⟨age.amount_le, ?_, age.exists_hours64?, ofText?_eq_some_iff.2 age.isSpelled_text⟩⟩
  · simp only [← ofText?_eq_some_iff, CommandLine.FindRequest.age]
    cases ofText? s.toList with
    | none => exact .inr ⟨by simp, rfl⟩
    | some age => exact .inl ⟨age, rfl, rfl⟩
  · rw [hours]
    cases age.unit with
    | hours => exact Nat.mul_one _
    | days => rfl
    | years => exact (Nat.mul_assoc _ _ _).symm

end Age

end TokenInventory
