import TokenInventory.Bytes.Hex
import TokenInventory.Text.Blank

/-!
# Hexadecimal bytes read and written

Bytes are read back from their digits (`decode_encode`), and the digits that bytes were read from
are written again, with small letters (`encode_of_decode`). A text stands for bytes if and only if
it consists of pairs of digits (`exists_decode_iff`).
-/

namespace TokenInventory.Hex

theorem value?_digit : ∀ n < 16, value? (digit n) = some n := by decide

theorem utf8Size_digit : ∀ n < 16, (digit n).utf8Size = 1 := by decide

theorem decodePairs_encode (position : Nat) (bytes : List UInt8) :
    decodePairs position (encode bytes) = .ok bytes := by
  induction bytes generalizing position with
  | nil => rfl
  | cons b bytes ih =>
    have hb := b.toNat_lt
    have hhigh := value?_digit (b.toNat / 16) (by omega)
    have hlow := value?_digit (b.toNat % 16) (by omega)
    have hsum : 16 * (b.toNat / 16) + b.toNat % 16 = b.toNat := by omega
    simp only [encode, decodePairs, digitAt, hhigh, hlow, ih]
    simp only [bind, Except.bind, hsum, UInt8.ofNat_toNat]

theorem byteLength_encode (bytes : List UInt8) :
    Text.byteLength (encode bytes) = 2 * bytes.length := by
  induction bytes with
  | nil => rfl
  | cons b bytes ih =>
    have hb := b.toNat_lt
    rw [encode, Text.byteLength, Text.byteLength, ih, utf8Size_digit _ (by omega),
      utf8Size_digit _ (by omega), List.length_cons]
    omega

/-- Bytes are read back from their digits. -/
theorem decode_encode (bytes : List UInt8) : decode (encode bytes) = .ok bytes := by
  rw [decode, byteLength_encode, if_pos (Nat.mul_mod_right 2 _), decodePairs_encode]

theorem isBlank_of_mem_encode (bytes : List UInt8) :
    ∀ c ∈ encode bytes, Text.isBlank c = false := by
  have hdigit : ∀ n < 16, Text.isBlank (digit n) = false := by decide
  induction bytes with
  | nil => exact List.forall_mem_nil _
  | cons b bytes ih =>
    have := b.toNat_lt
    rw [encode, List.forall_mem_cons, List.forall_mem_cons]
    exact ⟨hdigit _ (by omega), hdigit _ (by omega), ih⟩

theorem toNat_lt_of_value? {c : Char} {n : Nat} (h : value? c = some n) : c.toNat < 128 := by
  unfold value? at h
  split at h
  · next hc => exact Nat.lt_of_le_of_lt (UInt32.le_iff_toNat_le.1 hc.2) (by decide)
  · split at h
    · next hc => exact Nat.lt_of_le_of_lt (UInt32.le_iff_toNat_le.1 hc.2) (by decide)
    · split at h
      · next hc => exact Nat.lt_of_le_of_lt (UInt32.le_iff_toNat_le.1 hc.2) (by decide)
      · cases h

/-- A digit is the digit of its value, apart from its case. -/
theorem digit_of_value? {c : Char} {n : Nat} (h : value? c = some n) :
    n < 16 ∧ digit n = c.toLower := by
  have hall : ∀ m < 128, (value? (Char.ofNat m)).all
      (fun n => n < 16 && digit n == (Char.ofNat m).toLower) = true := by decide
  have := hall c.toNat (toNat_lt_of_value? h)
  rw [Char.ofNat_toNat, h] at this
  simpa using this

theorem encode_of_decodePairs {position : Nat} {s : List Char} {bytes : List UInt8}
    (h : decodePairs position s = .ok bytes) : encode bytes = Text.lower s := by
  fun_induction decodePairs position s generalizing bytes with
  | case1 => cases h; rfl
  | case2 position c =>
    simp only [bind, Except.bind] at h
    split at h <;> cases h
  | case3 position a b s ih =>
    simp only [digitAt] at h
    cases ha : value? a with
    | none => rw [ha] at h; cases h
    | some high =>
      cases hb : value? b with
      | none => rw [ha, hb] at h; cases h
      | some low =>
        cases hs : decodePairs (position + 2) s with
        | error e => rw [ha, hb, hs] at h; cases h
        | ok rest =>
          rw [ha, hb, hs] at h
          cases h
          obtain ⟨hhigh, hdigit⟩ := digit_of_value? ha
          obtain ⟨hlow, hdigit'⟩ := digit_of_value? hb
          have hbyte : (UInt8.ofNat (16 * high + low)).toNat = 16 * high + low := by
            rw [UInt8.toNat_ofNat']
            omega
          have hdiv : (16 * high + low) / 16 = high := by omega
          have hmod : (16 * high + low) % 16 = low := by omega
          rw [encode, hbyte, hdiv, hmod, hdigit, hdigit', ih hs]
          rfl

/-- The digits that bytes were read from are written again, with small letters. -/
theorem encode_of_decode {s : List Char} {bytes : List UInt8} (h : decode s = .ok bytes) :
    encode bytes = Text.lower s := by
  unfold decode at h
  split at h
  · exact encode_of_decodePairs h
  · cases h

/-! ## Which texts are digits -/

/-- Whether a text consists of pairs of digits. -/
def IsPairs (s : List Char) : Prop :=
  s.length % 2 = 0 ∧ ∀ c ∈ s, (value? c).isSome = true

theorem exists_decodePairs_iff (position : Nat) (s : List Char) :
    (∃ bytes, decodePairs position s = .ok bytes) ↔ IsPairs s := by
  fun_induction decodePairs position s with
  | case1 => exact iff_of_true ⟨[], rfl⟩ ⟨rfl, List.forall_mem_nil _⟩
  | case2 position c =>
    refine iff_of_false (fun ⟨bytes, h⟩ => ?_) fun h => by cases h.1
    simp only [bind, Except.bind] at h
    split at h <;> cases h
  | case3 position a b s ih =>
    have hpairs : IsPairs (a :: b :: s) ↔
        (value? a).isSome = true ∧ (value? b).isSome = true ∧ IsPairs s := by
      simp only [IsPairs, List.length_cons, List.forall_mem_cons, Nat.add_assoc,
        Nat.add_mod_right]
      exact and_left_comm.trans (and_congr_right fun _ => and_left_comm)
    rw [hpairs, ← ih]
    cases ha : value? a <;> cases hb : value? b <;>
      cases hs : decodePairs (position + 2) s <;>
      simp [digitAt, ha, hb, bind, Except.bind]

theorem byteLength_eq_length {s : List Char} (h : ∀ c ∈ s, (value? c).isSome = true) :
    Text.byteLength s = s.length := by
  induction s with
  | nil => rfl
  | cons c s ih =>
    obtain ⟨hc, hs⟩ := List.forall_mem_cons.1 h
    obtain ⟨n, hn⟩ := Option.isSome_iff_exists.1 hc
    have hsize : c.utf8Size = 1 := by
      refine Char.utf8Size_eq_one_iff.2 (UInt32.le_iff_toNat_le.2 ?_)
      exact Nat.le_of_lt_succ (toNat_lt_of_value? hn)
    rw [Text.byteLength, ih hs, hsize, List.length_cons, Nat.add_comm]

/-- A text stands for bytes if and only if it consists of pairs of digits. -/
theorem exists_decode_iff {s : List Char} : (∃ bytes, decode s = .ok bytes) ↔ IsPairs s := by
  rw [← exists_decodePairs_iff 0, decode]
  split
  · rfl
  · next hodd =>
    refine iff_of_false (fun ⟨bytes, h⟩ => by cases h) fun h => hodd ?_
    obtain ⟨hlength, hdigits⟩ := (exists_decodePairs_iff 0 s).1 h
    rw [byteLength_eq_length hdigits, hlength]

end TokenInventory.Hex
