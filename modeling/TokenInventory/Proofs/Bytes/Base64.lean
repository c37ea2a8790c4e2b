import Mathlib.Tactic.SplitIfs
import TokenInventory.Bytes.Base64

/-!
# Base 64 read and written

Bytes are read back from their base 64 form (`decode_encode`) and from no other text
(`decode_eq_some_iff`). The form consists of the sixty-four symbols and the filling
(`forall_mem_encode`).
-/

namespace TokenInventory.Base64

theorem value?_symbol : ∀ n < 64, value? (symbol n) = some n := by decide

theorem symbol_ne_fill : ∀ n < 64, symbol n ≠ '=' := by decide

theorem decode_cons {a b c d : Char} {i j k l : Nat} (ha : value? a = some i)
    (hb : value? b = some j) (hc : value? c = some k) (hd : value? d = some l) (hfill : d ≠ '=')
    (s : List Char) :
    decode (a :: b :: c :: d :: s) = (decode s).map fun bytes =>
      UInt8.ofNat (i * 4 + j / 16) :: UInt8.ofNat (j % 16 * 16 + k / 4) ::
        UInt8.ofNat (k % 4 * 64 + l) :: bytes := by
  rw [decode]
  · simp only [ha, hb, hc, hd, Option.map_eq_bind]
    rfl
  · rintro - rfl -
    exact hfill rfl
  · rintro rfl -
    exact hfill rfl

theorem decode_pair {a b : Char} {i j : Nat} (ha : value? a = some i) (hb : value? b = some j)
    (hj : j % 16 = 0) : decode [a, b, '=', '='] = some [UInt8.ofNat (i * 4 + j / 16)] := by
  simp [decode, ha, hb, hj]

theorem decode_triple {a b c : Char} {i j k : Nat} (ha : value? a = some i)
    (hb : value? b = some j) (hc : value? c = some k) (hfill : c ≠ '=') (hk : k % 4 = 0) :
    decode [a, b, c, '='] =
      some [UInt8.ofNat (i * 4 + j / 16), UInt8.ofNat (j % 16 * 16 + k / 4)] := by
  rw [decode]
  · simp [ha, hb, hc, hk]
  · exact hfill

/-- Bytes are read back from their base 64 form. -/
theorem decode_encode (bytes : List UInt8) : decode (encode bytes) = some bytes := by
  fun_induction encode bytes with
  | case1 => rfl
  | case2 a =>
    have := a.toNat_lt
    rw [decode_pair (value?_symbol _ (by omega)) (value?_symbol _ (by omega)) (by omega)]
    have hbyte : a.toNat / 4 * 4 + a.toNat % 4 * 16 / 16 = a.toNat := by omega
    rw [hbyte, UInt8.ofNat_toNat]
  | case3 a b =>
    have := a.toNat_lt
    have := b.toNat_lt
    rw [decode_triple (value?_symbol _ (by omega)) (value?_symbol _ (by omega))
      (value?_symbol _ (by omega)) (symbol_ne_fill _ (by omega)) (by omega)]
    have hfirst : a.toNat / 4 * 4 + (a.toNat % 4 * 16 + b.toNat / 16) / 16 = a.toNat := by omega
    have hsecond : (a.toNat % 4 * 16 + b.toNat / 16) % 16 * 16 + b.toNat % 16 * 4 / 4 =
      b.toNat := by omega
    rw [hfirst, hsecond, UInt8.ofNat_toNat, UInt8.ofNat_toNat]
  | case4 a b c rest ih =>
    have := a.toNat_lt
    have := b.toNat_lt
    have := c.toNat_lt
    rw [decode_cons (value?_symbol _ (by omega)) (value?_symbol _ (by omega))
      (value?_symbol _ (by omega)) (value?_symbol _ (by omega)) (symbol_ne_fill _ (by omega)), ih]
    have hfirst : a.toNat / 4 * 4 + (a.toNat % 4 * 16 + b.toNat / 16) / 16 = a.toNat := by omega
    have hsecond : (a.toNat % 4 * 16 + b.toNat / 16) % 16 * 16 +
      (b.toNat % 16 * 4 + c.toNat / 64) / 4 = b.toNat := by omega
    have hthird : (b.toNat % 16 * 4 + c.toNat / 64) % 4 * 64 + c.toNat % 64 = c.toNat := by omega
    rw [hfirst, hsecond, hthird, UInt8.ofNat_toNat, UInt8.ofNat_toNat, UInt8.ofNat_toNat]
    rfl

/-- A character with a value is the symbol of its value. -/
theorem symbol_of_value? {c : Char} {n : Nat} (h : value? c = some n) : n < 64 ∧ symbol n = c := by
  have hself {k m : Nat} (hle : k ≤ c.toNat) (hm : k + m = c.toNat) : Char.ofNat (k + m) = c := by
    rw [hm, Char.ofNat_toNat]
  unfold value? at h
  split_ifs at h with hupper hlower hdigit hplus hslash <;> cases h
  · have hle : 65 ≤ c.toNat := hupper.1
    have hge : c.toNat ≤ 90 := hupper.2
    have hvalue : 'A'.toNat = 65 := rfl
    rw [hvalue]
    refine ⟨by omega, ?_⟩
    rw [symbol, if_pos (by omega), hvalue, hself hle (by omega)]
  · have hle : 97 ≤ c.toNat := hlower.1
    have hge : c.toNat ≤ 122 := hlower.2
    have hvalue : 'a'.toNat = 97 := rfl
    rw [hvalue]
    refine ⟨by omega, ?_⟩
    rw [symbol, if_neg (by omega), if_pos (by omega), hvalue, hself hle (by omega)]
  · have hle : 48 ≤ c.toNat := hdigit.1
    have hge : c.toNat ≤ 57 := hdigit.2
    have hvalue : '0'.toNat = 48 := rfl
    rw [hvalue]
    refine ⟨by omega, ?_⟩
    rw [symbol, if_neg (by omega), if_neg (by omega), if_pos (by omega), hvalue,
      hself hle (by omega)]
  · exact ⟨by decide, hplus.symm⟩
  · exact ⟨by decide, hslash.symm⟩

/-- Reading accepts only what writing gives. -/
theorem encode_of_decode {s : List Char} {bytes : List UInt8} (h : decode s = some bytes) :
    encode bytes = s := by
  fun_induction decode s generalizing bytes with
  | case1 => cases h; rfl
  | case2 a b =>
    simp only [Option.bind_eq_bind, Option.bind_eq_some_iff] at h
    obtain ⟨i, ha, j, hb, h⟩ := h
    obtain ⟨hi, rfl⟩ := symbol_of_value? ha
    obtain ⟨hj, rfl⟩ := symbol_of_value? hb
    split_ifs at h with hfill
    cases h
    have hfirst : (i * 4 + j / 16) % 256 / 4 = i := by omega
    have hsecond : (i * 4 + j / 16) % 256 % 4 * 16 = j := by omega
    simp only [encode, UInt8.toNat_ofNat', Nat.reducePow, hfirst, hsecond]
  | case3 a b c =>
    simp only [Option.bind_eq_bind, Option.bind_eq_some_iff] at h
    obtain ⟨i, ha, j, hb, k, hc, h⟩ := h
    obtain ⟨hi, rfl⟩ := symbol_of_value? ha
    obtain ⟨hj, rfl⟩ := symbol_of_value? hb
    obtain ⟨hk, rfl⟩ := symbol_of_value? hc
    split_ifs at h with hfill
    cases h
    have hfirst : (i * 4 + j / 16) % 256 / 4 = i := by omega
    have hsecond : (i * 4 + j / 16) % 256 % 4 * 16 + (j % 16 * 16 + k / 4) % 256 / 16 = j := by
      omega
    have hthird : (j % 16 * 16 + k / 4) % 256 % 16 * 4 = k := by omega
    simp only [encode, UInt8.toNat_ofNat', Nat.reducePow, hfirst, hsecond, hthird]
  | case4 a b c d rest _ _ ih =>
    simp only [Option.bind_eq_bind, Option.bind_eq_some_iff] at h
    obtain ⟨i, ha, j, hb, k, hc, l, hd, more, hrest, h⟩ := h
    obtain ⟨hi, rfl⟩ := symbol_of_value? ha
    obtain ⟨hj, rfl⟩ := symbol_of_value? hb
    obtain ⟨hk, rfl⟩ := symbol_of_value? hc
    obtain ⟨hl, rfl⟩ := symbol_of_value? hd
    cases h
    have hfirst : (i * 4 + j / 16) % 256 / 4 = i := by omega
    have hsecond : (i * 4 + j / 16) % 256 % 4 * 16 + (j % 16 * 16 + k / 4) % 256 / 16 = j := by
      omega
    have hthird : (j % 16 * 16 + k / 4) % 256 % 16 * 4 + (k % 4 * 64 + l) % 256 / 64 = k := by
      omega
    have hfourth : (k % 4 * 64 + l) % 256 % 64 = l := by omega
    simp only [encode, UInt8.toNat_ofNat', Nat.reducePow, hfirst, hsecond, hthird, hfourth,
      ih hrest]
  | case5 => cases h

/-- Bytes are read from their base 64 form only. -/
theorem decode_eq_some_iff {s : List Char} {bytes : List UInt8} :
    decode s = some bytes ↔ s = encode bytes :=
  ⟨fun h => (encode_of_decode h).symm, fun h => h ▸ decode_encode bytes⟩

/-- What holds of the symbols and the filling holds of every character of a base 64 form. -/
theorem forall_mem_encode {p : Char → Prop} (hsymbol : ∀ n < 64, p (symbol n)) (hfill : p '=')
    (bytes : List UInt8) : ∀ c ∈ encode bytes, p c := by
  fun_induction encode bytes with
  | case1 => exact List.forall_mem_nil _
  | case2 a =>
    have := a.toNat_lt
    simp only [List.forall_mem_cons, List.not_mem_nil, false_implies, implies_true, and_true]
    exact ⟨hsymbol _ (by omega), hsymbol _ (by omega), hfill, hfill⟩
  | case3 a b =>
    have := a.toNat_lt
    have := b.toNat_lt
    simp only [List.forall_mem_cons, List.not_mem_nil, false_implies, implies_true, and_true]
    exact ⟨hsymbol _ (by omega), hsymbol _ (by omega), hsymbol _ (by omega), hfill⟩
  | case4 a b c rest ih =>
    have := a.toNat_lt
    have := b.toNat_lt
    have := c.toNat_lt
    simp only [List.forall_mem_cons]
    exact ⟨hsymbol _ (by omega), hsymbol _ (by omega), hsymbol _ (by omega),
      hsymbol _ (by omega), ih⟩

end TokenInventory.Base64
