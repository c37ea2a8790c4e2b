import TokenInventory.Bytes.Base32

/-!
# Base 32 read and written

Bytes are read back from their base 32 form (`decode_encode`). The bits that the reader has left
over at a border of bytes are always the first bits of the next byte, so a group is read byte by
byte (`decodeFrom_first` to `decodeFrom_fifth`); in a shorter group the bytes that are missing are
zero, and the bits of them that were written fill no byte.
-/

namespace TokenInventory.Base32

theorem value?_symbol : ∀ n < 32, value? (symbol n) = some n := by decide

theorem symbol_ne_fill : ∀ n < 32, symbol n ≠ '=' := by decide

/-- The forty bits of five bytes, five at a time. -/
def quintets (a b c d e : UInt8) : List Nat :=
  [a.toNat / 8, a.toNat % 8 * 4 + b.toNat / 64, b.toNat / 2 % 32, b.toNat % 2 * 16 + c.toNat / 16,
    c.toNat % 16 * 2 + d.toNat / 128, d.toNat / 4 % 32, d.toNat % 4 * 8 + e.toNat / 32,
    e.toNat % 32]

variable {a b c d e : UInt8}

theorem lt_of_mem_quintets : ∀ n ∈ quintets a b c d e, n < 32 := by
  have := a.toNat_lt
  have := b.toNat_lt
  have := c.toNat_lt
  have := d.toNat_lt
  have := e.toNat_lt
  simp only [quintets, List.forall_mem_cons, List.not_mem_nil, false_implies, implies_true,
    and_true]
  omega

/-- A group shows the bits that belong to its bytes and is filled up. -/
theorem group_eq {count : Nat} (h : count ≤ 5) (a b c d e : UInt8) :
    group count a b c d e =
      ((quintets a b c d e).take ((count * 8 + 4) / 5)).map symbol ++
        List.replicate (8 - (count * 8 + 4) / 5) '=' := by
  have := a.toNat_lt
  have := b.toNat_lt
  have := c.toNat_lt
  have := d.toNat_lt
  have := e.toNat_lt
  have hbits : quintets a b c d e = (List.range 8).map fun i =>
      ((((a.toNat * 256 + b.toNat) * 256 + c.toNat) * 256 + d.toNat) * 256 + e.toNat) >>>
        (35 - 5 * i) % 32 := by
    simp only [quintets, List.range, List.range.loop, List.map_cons, List.map_nil,
      Nat.shiftRight_eq_div_pow, List.cons.injEq, and_true]
    omega
  rw [hbits]
  unfold group
  match count, h with
  | 0, _ | 1, _ | 2, _ | 3, _ | 4, _ | 5, _ => rfl

/-! ## The reader at borders of bytes -/

theorem decodeFrom_cons {a : Accumulator} {c : Char} {v : Nat} (h : value? c = some v)
    (s : List Char) : decodeFrom a (c :: s) =
      (decodeFrom (a.push v).rest s).map ((a.push v).byte?.toList ++ ·) := by
  rw [decodeFrom, h]

/-- A symbol whose bits do not make up a byte yet. -/
theorem decodeFrom_symbol {bits width v : Nat} (hv : v < 32) (hwidth : width < 3)
    (s : List Char) :
    decodeFrom ⟨bits, width⟩ (symbol v :: s) = decodeFrom ⟨bits * 32 + v, width + 5⟩ s := by
  have hfew : ¬8 ≤ width + 5 := by omega
  rw [decodeFrom_cons (value?_symbol v hv)]
  simp only [Accumulator.push, Accumulator.byte?, Accumulator.rest, hfew, if_false,
    Option.toList_none, List.nil_append, Option.map_id']

/-- A symbol whose bits complete a byte. -/
theorem decodeFrom_symbol_byte {bits width v : Nat} (byte : UInt8) (left : Nat) (hv : v < 32)
    (hwidth : 3 ≤ width) (hbits : bits * 32 + v = 1 <<< (width - 3) * byte.toNat + left)
    (hleft : left < 1 <<< (width - 3)) (s : List Char) :
    decodeFrom ⟨bits, width⟩ (symbol v :: s) =
      (decodeFrom ⟨left, width - 3⟩ s).map (byte :: ·) := by
  have hpos : 0 < 1 <<< (width - 3) := by omega
  have hshift : width + 5 - 8 = width - 3 := by omega
  have henough : 8 ≤ width + 5 := by omega
  have hdiv : (1 <<< (width - 3) * byte.toNat + left) / 1 <<< (width - 3) = byte.toNat := by
    rw [Nat.mul_add_div hpos, Nat.div_eq_of_lt hleft, Nat.add_zero]
  rw [decodeFrom_cons (value?_symbol v hv)]
  simp only [Accumulator.push, Accumulator.byte?, Accumulator.rest, henough, if_true, hshift]
  rw [hbits, Nat.shiftRight_eq_div_pow, ← Nat.one_shiftLeft, hdiv, Nat.mul_add_mod,
    Nat.mod_eq_of_lt hleft, UInt8.ofNat_toNat]
  rfl

variable {bytes : List UInt8} {s : List Char}

theorem decodeFrom_first (h : decodeFrom ⟨b.toNat / 64, 2⟩ s = some bytes) :
    decodeFrom {} (symbol (a.toNat / 8) :: symbol (a.toNat % 8 * 4 + b.toNat / 64) :: s) =
      some (a :: bytes) := by
  have := a.toNat_lt
  have := b.toNat_lt
  rw [decodeFrom_symbol (by omega) (by omega),
    decodeFrom_symbol_byte a (b.toNat / 64) (by omega) (by omega) (by omega) (by omega), h,
    Option.map_some]

theorem decodeFrom_second (h : decodeFrom ⟨c.toNat / 16, 4⟩ s = some bytes) :
    decodeFrom ⟨b.toNat / 64, 2⟩
        (symbol (b.toNat / 2 % 32) :: symbol (b.toNat % 2 * 16 + c.toNat / 16) :: s) =
      some (b :: bytes) := by
  have := b.toNat_lt
  have := c.toNat_lt
  rw [decodeFrom_symbol (by omega) (by omega),
    decodeFrom_symbol_byte b (c.toNat / 16) (by omega) (by omega) (by omega) (by omega), h,
    Option.map_some]

theorem decodeFrom_third (h : decodeFrom ⟨d.toNat / 128, 1⟩ s = some bytes) :
    decodeFrom ⟨c.toNat / 16, 4⟩ (symbol (c.toNat % 16 * 2 + d.toNat / 128) :: s) =
      some (c :: bytes) := by
  have := c.toNat_lt
  have := d.toNat_lt
  rw [decodeFrom_symbol_byte c (d.toNat / 128) (by omega) (by omega) (by omega) (by omega), h,
    Option.map_some]

theorem decodeFrom_fourth (h : decodeFrom ⟨e.toNat / 32, 3⟩ s = some bytes) :
    decodeFrom ⟨d.toNat / 128, 1⟩
        (symbol (d.toNat / 4 % 32) :: symbol (d.toNat % 4 * 8 + e.toNat / 32) :: s) =
      some (d :: bytes) := by
  have := d.toNat_lt
  have := e.toNat_lt
  rw [decodeFrom_symbol (by omega) (by omega),
    decodeFrom_symbol_byte d (e.toNat / 32) (by omega) (by omega) (by omega) (by omega), h,
    Option.map_some]

theorem decodeFrom_fifth (h : decodeFrom {} s = some bytes) :
    decodeFrom ⟨e.toNat / 32, 3⟩ (symbol (e.toNat % 32) :: s) = some (e :: bytes) := by
  have := e.toNat_lt
  rw [decodeFrom_symbol_byte e 0 (by omega) (by omega) (by omega) (by omega), h, Option.map_some]

/-! ## The whole text -/

theorem dropPadding_append_fill (s : List Char) (n : Nat) :
    dropPadding (s ++ List.replicate n '=') = dropPadding s := by
  rw [dropPadding, List.reverse_append, List.reverse_replicate,
    List.dropWhile_append_of_pos (by simp), dropPadding]

theorem dropPadding_append (h : ∀ c ∈ s, c ≠ '=') (n : Nat) :
    dropPadding (s ++ List.replicate n '=') = s := by
  have hkept : s.reverse.dropWhile (· == '=') = s.reverse := by
    cases hs : s.reverse with
    | nil => rfl
    | cons c r =>
      have hc : c ≠ '=' := h c (List.mem_reverse.1 (hs ▸ List.mem_cons_self))
      exact List.dropWhile_cons_of_neg (by simpa using hc)
  rw [dropPadding_append_fill, dropPadding, hkept, List.reverse_reverse]

/-- Whether a text consists of symbols from which bytes are read and of filling. -/
def Spells (s : List Char) (bytes : List UInt8) : Prop :=
  ∃ symbols n, s = symbols ++ List.replicate n '=' ∧ (∀ c ∈ symbols, c ≠ '=') ∧
    decodeFrom {} symbols = some bytes

theorem Spells.decode_eq (h : Spells s bytes) : decode s = some bytes := by
  obtain ⟨symbols, n, rfl, hne, hread⟩ := h
  rw [decode, dropPadding_append hne, hread]

theorem spells_group {count : Nat} (h : count ≤ 5)
    (hread : decodeFrom {} (((quintets a b c d e).take ((count * 8 + 4) / 5)).map symbol) =
      some bytes) : Spells (group count a b c d e) bytes := by
  refine ⟨_, _, group_eq h a b c d e, ?_, hread⟩
  rw [List.forall_mem_map]
  exact fun n hn => symbol_ne_fill n (lt_of_mem_quintets n (List.mem_of_mem_take hn))

/-- A full group comes before other ones. -/
theorem Spells.group_append (h : Spells s bytes) (a b c d e : UInt8) :
    Spells (group 5 a b c d e ++ s) (a :: b :: c :: d :: e :: bytes) := by
  obtain ⟨symbols, n, rfl, hne, hread⟩ := h
  refine ⟨(quintets a b c d e).map symbol ++ symbols, n, ?_, ?_, ?_⟩
  · rw [group_eq (by decide), List.append_assoc]
    rfl
  · rw [List.forall_mem_append, List.forall_mem_map]
    exact ⟨fun n hn => symbol_ne_fill n (lt_of_mem_quintets n hn), hne⟩
  · exact decodeFrom_first (decodeFrom_second (decodeFrom_third (decodeFrom_fourth
      (decodeFrom_fifth hread))))

theorem spells_encode (bytes : List UInt8) : Spells (encode bytes) bytes := by
  fun_induction encode bytes with
  | case1 => exact ⟨[], 0, rfl, List.forall_mem_nil _, rfl⟩
  | case2 a => exact spells_group (by decide) (decodeFrom_first rfl)
  | case3 a b => exact spells_group (by decide) (decodeFrom_first (decodeFrom_second rfl))
  | case4 a b c =>
    exact spells_group (by decide) (decodeFrom_first (decodeFrom_second (decodeFrom_third rfl)))
  | case5 a b c d =>
    exact spells_group (by decide) (decodeFrom_first (decodeFrom_second (decodeFrom_third
      (decodeFrom_fourth rfl))))
  | case6 a b c d e rest ih => exact ih.group_append a b c d e

/-- Bytes are read back from their base 32 form. -/
theorem decode_encode (bytes : List UInt8) : decode (encode bytes) = some bytes :=
  (spells_encode bytes).decode_eq

end TokenInventory.Base32
