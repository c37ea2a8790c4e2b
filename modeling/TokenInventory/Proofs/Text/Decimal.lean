import TokenInventory.Proofs.Text.Blank
import TokenInventory.Text.Decimal

/-!
# Numbers are read as they were written

Exactly the numerals are read as integers, each as what it denotes (`readInt_eq_some_iff`). The
decimal digits of a number denote it (`isDigits_toDigits`) and begin with a zero only if there is no
other digit (`toDigits_eq_of_head?`). So every integer, and every 64-bit one, is read back from its
decimal notation (`readInt_writeInt`, `readInt64_writeInt`).
-/

namespace TokenInventory.Text

theorem readDigits_eq_some {s : List Char} (h : ∀ c ∈ s, c.isDigit = true) (acc : Nat) :
    readDigits acc s = some (Nat.ofDigitChars 10 s acc) := by
  induction s generalizing acc with
  | nil => rfl
  | cons c s ih =>
    rw [List.forall_mem_cons] at h
    rw [readDigits, if_pos h.1, ih h.2, Nat.ofDigitChars_cons, Nat.mul_comm]

theorem isDigit_of_readDigits {s : List Char} {acc n : Nat} (h : readDigits acc s = some n) :
    ∀ c ∈ s, c.isDigit = true := by
  induction s generalizing acc with
  | nil => nofun
  | cons c s ih =>
    rw [readDigits] at h
    split at h
    · next hc => exact List.forall_mem_cons.2 ⟨hc, ih h⟩
    · cases h

/-! ## What is read as a number -/

/-- Whether a text is the decimal digits of a number, leading zeros allowed. -/
structure IsDigits (s : List Char) (n : Nat) : Prop where
  ne_nil : s ≠ []
  isDigit : ∀ c ∈ s, c.isDigit = true
  value : Nat.ofDigitChars 10 s 0 = n

/-- Whether a text denotes an integer: its digits, with a sign at most. -/
inductive IsNumeral : List Char → Int → Prop
  | bare {s : List Char} {n : Nat} : IsDigits s n → IsNumeral s n
  | plus {s : List Char} {n : Nat} : IsDigits s n → IsNumeral ('+' :: s) n
  | minus {s : List Char} {n : Nat} : IsDigits s n → IsNumeral ('-' :: s) (-n)

theorem IsNumeral.ne_nil {s : List Char} {i : Int} (h : IsNumeral s i) : s ≠ [] := by
  cases h with
  | bare h => exact h.ne_nil
  | plus | minus => exact List.cons_ne_nil _ _

/-- A numeral has a `+` at its start only. -/
theorem IsNumeral.head?_eq_or {s : List Char} {i : Int} (h : IsNumeral s i) :
    s.head? = some '+' ∨ ∀ c ∈ s, c.isDigit = true ∨ c = '-' := by
  cases h with
  | bare h => exact .inr fun c hc => .inl (h.isDigit c hc)
  | plus => exact .inl rfl
  | minus h => exact .inr (List.forall_mem_cons.2 ⟨.inr rfl, fun c hc => .inl (h.isDigit c hc)⟩)

/-- Numerals have no letters. -/
theorem IsNumeral.of_mem {s : List Char} {i : Int} (h : IsNumeral s i) {c : Char} (hc : c ∈ s) :
    c.isDigit = true ∨ c = '+' ∨ c = '-' := by
  cases h with
  | bare h => exact .inl (h.isDigit c hc)
  | plus h => exact (List.mem_cons.1 hc).elim (fun hc => .inr (.inl hc)) (.inl <| h.isDigit c ·)
  | minus h => exact (List.mem_cons.1 hc).elim (fun hc => .inr (.inr hc)) (.inl <| h.isDigit c ·)

theorem IsNumeral.isBlank_of_mem {s : List Char} {i : Int} (h : IsNumeral s i) {c : Char}
    (hc : c ∈ s) : isBlank c = false := by
  rcases h.of_mem hc with hdigit | rfl | rfl
  · exact isBlank_of_isAlphanum (Bool.or_eq_true_iff.2 (.inr hdigit))
  · rfl
  · rfl

theorem IsNumeral.trim_eq {s : List Char} {i : Int} (h : IsNumeral s i) : trim s = s :=
  trim_of_forall_not_blank fun _ => h.isBlank_of_mem

theorem toLower_of_isDigit {c : Char} (h : c.isDigit = true) : c.toLower = c := by
  have hle : c.toNat ≤ 57 := (Char.isDigit_iff_toNat.1 h).2
  refine dif_neg ?_
  rintro ⟨hge, -⟩
  have hge : 65 ≤ c.toNat := hge
  omega

theorem IsNumeral.lower_eq {s : List Char} {i : Int} (h : IsNumeral s i) : lower s = s := by
  refine (List.map_congr_left fun c hc => ?_).trans (List.map_id s)
  rcases h.of_mem hc with hdigit | rfl | rfl
  · exact toLower_of_isDigit hdigit
  · rfl
  · rfl

theorem readNat_eq_some_iff {s : List Char} {n : Nat} : readNat s = some n ↔ IsDigits s n := by
  cases s with
  | nil => exact ⟨nofun, fun h => absurd rfl h.ne_nil⟩
  | cons c s =>
    constructor
    · intro h
      have hdigits := isDigit_of_readDigits h
      rw [readNat, readDigits_eq_some hdigits] at h
      exact ⟨List.cons_ne_nil c s, hdigits, Option.some.inj h⟩
    · intro ⟨_, hdigits, hvalue⟩
      rw [readNat, readDigits_eq_some hdigits, hvalue]

theorem readInt_eq_some_iff {s : List Char} {i : Int} : readInt s = some i ↔ IsNumeral s i := by
  constructor
  · unfold readInt
    split <;> intro h <;> obtain ⟨_, hread, rfl⟩ := Option.map_eq_some_iff.1 h
    · obtain ⟨n, hn, ⟨⟩⟩ := Option.bind_eq_some_iff.1 hread
      exact .minus (readNat_eq_some_iff.1 hn)
    · unfold readUnsigned at hread
      split at hread
      · exact .plus (readNat_eq_some_iff.1 hread)
      · exact .bare (readNat_eq_some_iff.1 hread)
  · rintro (h | h | h)
    · -- a digit is neither of the signs
      have hhead : ∀ c rest, s = c :: rest → c.isDigit = true := fun c rest hs =>
        h.isDigit c (hs ▸ List.mem_cons_self)
      unfold readInt readUnsigned
      split
      · cases hhead _ _ rfl
      · split
        · cases hhead _ _ rfl
        · rw [readNat_eq_some_iff.2 h]
          rfl
    · rw [readInt, readUnsigned, readNat_eq_some_iff.2 h]
      · rfl
      · rintro _ ⟨⟩
    · rw [readInt, readNat_eq_some_iff.2 h]
      rfl

theorem int64?_eq_some_iff {i : Int} {x : Int64} : int64? i = some x ↔ x.toInt = i := by
  constructor
  · unfold int64?
    split
    · next hrange =>
      rintro ⟨⟩
      exact Int64.toInt_ofInt_of_le hrange.1 hrange.2
    · nofun
  · rintro rfl
    have := x.le_toInt
    have := x.toInt_lt
    rw [int64?, if_pos ⟨by omega, by omega⟩, Int64.ofInt_toInt]

/-- A text is read as a 64-bit integer exactly if it denotes it. -/
theorem readInt64_eq_some_iff {s : List Char} {x : Int64} :
    readInt64 s = some x ↔ IsNumeral s x.toInt := by
  rw [readInt64, Option.bind_eq_some_iff]
  constructor
  · rintro ⟨i, hi, hx⟩
    rw [int64?_eq_some_iff.1 hx]
    exact readInt_eq_some_iff.1 hi
  · intro h
    exact ⟨x.toInt, readInt_eq_some_iff.2 h, int64?_eq_some_iff.2 rfl⟩

/-! ## What is written -/

theorem isDigit_of_mem_toDigits {n : Nat} : ∀ c ∈ Nat.toDigits 10 n, c.isDigit = true :=
  fun _ hc => Nat.isDigit_of_mem_toDigits (by decide) (by decide) hc

/-- What holds of the digits and the sign holds of every character of a number. -/
theorem forall_mem_ofInt64 {p : Char → Prop} (hdigit : ∀ c, c.isDigit = true → p c) (hsign : p '-')
    (x : Int64) : ∀ c ∈ (ofInt64 x).toList, p c := by
  have hdigits : ∀ n, ∀ c ∈ Nat.toDigits 10 n, p c := fun n c hc =>
    hdigit c (isDigit_of_mem_toDigits c hc)
  rw [ofInt64, String.toList_ofList]
  cases x.toInt with
  | ofNat n => exact hdigits n
  | negSucc n => exact List.forall_mem_cons.2 ⟨hsign, hdigits (n + 1)⟩

theorem not_mem_ofInt64 {c : Char} (hdigit : c.isDigit = false) (hsign : '-' ≠ c) (x : Int64) :
    c ∉ (ofInt64 x).toList := by
  have hne : ∀ d ∈ (ofInt64 x).toList, d ≠ c := by
    refine forall_mem_ofInt64 (fun d hd => ?_) hsign x
    rintro rfl
    cases hd.symm.trans hdigit
  exact fun hmem => hne c hmem rfl

theorem readDigits_toDigits (n : Nat) : readDigits 0 (Nat.toDigits 10 n) = some n := by
  rw [readDigits_eq_some isDigit_of_mem_toDigits, Nat.ofDigitChars_ten_toDigits]

theorem exists_cons_toDigits (n : Nat) :
    ∃ c s, c.isDigit = true ∧ Nat.toDigits 10 n = c :: s := by
  cases h : Nat.toDigits 10 n with
  | nil => exact absurd h Nat.toDigits_ne_nil
  | cons c s => exact ⟨c, s, isDigit_of_mem_toDigits c (h ▸ List.mem_cons_self), rfl⟩

theorem isDigits_toDigits (n : Nat) : IsDigits (Nat.toDigits 10 n) n :=
  ⟨Nat.toDigits_ne_nil, isDigit_of_mem_toDigits, Nat.ofDigitChars_ten_toDigits⟩

/-- Only zero is written with a zero in front. -/
theorem toDigits_eq_of_head? {n : Nat} (h : (Nat.toDigits 10 n).head? = some '0') :
    Nat.toDigits 10 n = ['0'] := by
  induction n using Nat.strongRecOn with
  | ind n ih =>
    rcases Nat.lt_or_ge n 10 with hn | hn
    · rw [Nat.toDigits_of_lt_base hn] at h ⊢
      exact congrArg ([·]) (Option.some.inj h)
    · obtain ⟨c, s, -, hcons⟩ := exists_cons_toDigits (n / 10)
      rw [Nat.toDigits_of_base_le (by decide) hn, hcons] at h
      have h : (Nat.toDigits 10 (n / 10)).head? = some '0' := hcons ▸ h
      have hzero := congrArg (Nat.ofDigitChars 10 · 0) (ih (n / 10) (by omega) h)
      simp only [Nat.ofDigitChars_ten_toDigits] at hzero
      have : n / 10 = 0 := hzero
      omega

theorem isNumeral_writeInt (i : Int) : IsNumeral (writeInt i) i := by
  cases i with
  | ofNat n => exact .bare (isDigits_toDigits n)
  | negSucc n => exact .minus (isDigits_toDigits (n + 1))

theorem readInt_writeInt (i : Int) : readInt (writeInt i) = some i :=
  readInt_eq_some_iff.2 (isNumeral_writeInt i)

theorem int64?_toInt (x : Int64) : int64? x.toInt = some x :=
  int64?_eq_some_iff.2 rfl

theorem readInt64_writeInt (x : Int64) : readInt64 (writeInt x.toInt) = some x :=
  readInt64_eq_some_iff.2 (isNumeral_writeInt x.toInt)

theorem ofInt64_inj {x y : Int64} (h : ofInt64 x = ofInt64 y) : x = y := by
  have hwrite : writeInt x.toInt = writeInt y.toInt := String.ofList_injective h
  have hread := readInt64_writeInt x
  rw [hwrite, readInt64_writeInt] at hread
  exact (Option.some.inj hread).symm

end TokenInventory.Text
