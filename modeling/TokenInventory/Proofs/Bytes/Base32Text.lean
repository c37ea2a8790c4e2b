import Mathlib.Algebra.Group.Nat.Defs
import TokenInventory.Proofs.Bytes.Base32
import TokenInventory.Text.Basic

/-!
# Base 32 texts

The base 32 form of bytes fills groups of eight characters of the alphabet. Reading depends neither
on the case of letters nor on the number of `=` at the end (`decode_lower`, `decode_append_fill`),
so bytes are read back from their form in any dress. A text is refused exactly if a character before
the `=` at its end is not in the alphabet (`decode_eq_none_iff`).

The reader is also described by what it holds from one character to the next (`accumulators`): the
bytes it gives are those that its accumulators complete (`decodeFrom_eq`), and no accumulator is
wider than twelve bits (`isNarrow_of_mem_accumulators`). The results are put together in
`decode_encode_dressed`.
-/

namespace TokenInventory.Base32

/-- The characters of base 32, in the order of the numbers that they stand for. -/
def alphabet : List Char :=
  "ABCDEFGHIJKLMNOPQRSTUVWXYZ234567".toList

/-! ## Written texts -/

theorem symbol_mem_alphabet : ∀ n < 32, symbol n ∈ alphabet := by decide

theorem length_group (count : Nat) (a b c d e : UInt8) : (group count a b c d e).length = 8 := by
  simp [group]

theorem mem_group {count : Nat} {a b c d e : UInt8} {x : Char} (h : x ∈ group count a b c d e) :
    x ∈ alphabet ∨ x = '=' := by
  obtain ⟨i, -, rfl⟩ := List.mem_map.1 h
  split
  · exact .inl (symbol_mem_alphabet _ (Nat.mod_lt _ (by decide)))
  · exact .inr rfl

/-- Every five bytes, and what is left of them at the end, take eight characters. -/
theorem length_encode (bytes : List UInt8) :
    (encode bytes).length = 8 * ((bytes.length + 4) / 5) := by
  fun_induction encode bytes with
  | case1 => rfl
  | case2 | case3 | case4 | case5 => simp [length_group]
  | case6 a b c d e rest ih =>
    simp only [List.length_append, length_group, ih, List.length_cons]
    omega

theorem mem_encode {bytes : List UInt8} {x : Char} (h : x ∈ encode bytes) :
    x ∈ alphabet ∨ x = '=' := by
  fun_induction encode bytes with
  | case1 => cases h
  | case2 | case3 | case4 | case5 => exact mem_group h
  | case6 a b c d e rest ih => exact (List.mem_append.1 h).elim mem_group ih

theorem exists_encode_eq (bytes : List UInt8) : ∃ symbols n,
    encode bytes = symbols ++ List.replicate n '=' ∧ ∀ c ∈ symbols, c ∈ alphabet := by
  obtain ⟨symbols, n, heq, hne, -⟩ := spells_encode bytes
  refine ⟨symbols, n, heq, fun c hc => ?_⟩
  have hmem : c ∈ encode bytes := heq ▸ List.mem_append_left _ hc
  exact (mem_encode hmem).resolve_right (hne c hc)

/-! ## Letter case and filling -/

/-- Whether something holds of a character can be checked code by code for those below 128. -/
theorem of_ascii {p : Char → Prop} (hascii : ∀ n < 128, p (Char.ofNat n))
    (hother : ∀ c : Char, 128 ≤ c.toNat → p c) (c : Char) : p c := by
  rcases Nat.lt_or_ge c.toNat 128 with hlt | hge
  · rw [← Char.ofNat_toNat c]
    exact hascii c.toNat hlt
  · exact hother c hge

theorem toLower_eq_self {c : Char} (h : 128 ≤ c.toNat) : c.toLower = c := by
  refine dif_neg ?_
  rintro ⟨-, hle⟩
  have hle : c.toNat ≤ 90 := hle
  omega

theorem toUpper_eq_self {c : Char} (h : 128 ≤ c.toNat) : c.toUpper = c := by
  refine dif_neg ?_
  rintro ⟨-, hle⟩
  have hle : c.toNat ≤ 122 := hle
  omega

theorem value?_eq_none {c : Char} (h : 128 ≤ c.toNat) : value? c = none := by
  have hout : ∀ {low high : Char}, high.toNat < 128 → ¬(low ≤ c ∧ c ≤ high) := fun hhigh hc => by
    have hle : c.toNat ≤ _ := UInt32.le_iff_toNat_le.1 hc.2
    exact absurd (Nat.lt_of_le_of_lt hle hhigh) (by omega)
  rw [value?, if_neg (hout (by decide)), if_neg (hout (by decide)), if_neg (hout (by decide))]

theorem value?_toLower : ∀ c : Char, value? c.toLower = value? c :=
  of_ascii (by decide) fun c hc => by rw [toLower_eq_self hc]

theorem lt_of_value? : ∀ c : Char, ∀ v ∈ value? c, v < 32 :=
  of_ascii (by decide) fun c hc => by simp [value?_eq_none hc]

/-- The characters that stand for bits are those of the alphabet in either case. -/
theorem value?_eq_none_iff : ∀ c : Char, value? c = none ↔ c.toUpper ∉ alphabet := by
  have hascii : alphabet.all (·.toNat < 128) = true := by decide
  refine of_ascii (by decide +kernel) fun c hc => ?_
  rw [toUpper_eq_self hc]
  refine iff_of_true (value?_eq_none hc) fun hmem => ?_
  exact absurd (of_decide_eq_true (List.all_eq_true.1 hascii c hmem)) (by omega)

theorem toLower_eq_fill_iff : ∀ c : Char, c.toLower = '=' ↔ c = '=' :=
  of_ascii (by decide) fun c hc => by rw [toLower_eq_self hc]

theorem decodeFrom_lower (a : Accumulator) (s : List Char) :
    decodeFrom a (Text.lower s) = decodeFrom a s := by
  induction s generalizing a with
  | nil => rfl
  | cons c s ih =>
    rw [Text.lower] at ih ⊢
    rw [List.map_cons, decodeFrom, decodeFrom, value?_toLower]
    simp only [ih]

theorem dropPadding_lower (s : List Char) :
    dropPadding (Text.lower s) = Text.lower (dropPadding s) := by
  have hfill : ((· == '=') ∘ Char.toLower : Char → Bool) = (· == '=') := by
    funext c
    exact Bool.eq_iff_iff.2 (by simp [toLower_eq_fill_iff])
  rw [dropPadding, dropPadding, Text.lower, ← List.map_reverse, List.dropWhile_map,
    ← List.map_reverse, hfill, Text.lower]

/-- The case of letters does not matter. -/
theorem decode_lower (s : List Char) : decode (Text.lower s) = decode s := by
  rw [decode, dropPadding_lower, decodeFrom_lower, decode]

/-- Filling at the end does not matter. -/
theorem decode_append_fill (s : List Char) (n : Nat) :
    decode (s ++ List.replicate n '=') = decode s := by
  rw [decode, dropPadding_append_fill, decode]

theorem exists_append_dropPadding (s : List Char) : ∃ n,
    s = dropPadding s ++ List.replicate n '=' ∧ (dropPadding s).getLast? ≠ some '=' := by
  refine ⟨(s.reverse.takeWhile (· == '=')).length, ?_, ?_⟩
  · have hfill : s.reverse.takeWhile (· == '=') =
        List.replicate (s.reverse.takeWhile (· == '=')).length '=' :=
      List.eq_replicate_of_mem fun c hc => by
        simpa using List.all_eq_true.1 List.all_takeWhile c hc
    rw [dropPadding, ← List.reverse_replicate, ← hfill, ← List.reverse_append,
      List.takeWhile_append_dropWhile, List.reverse_reverse]
  · rw [dropPadding, List.getLast?_reverse]
    intro h
    have := List.head?_dropWhile_not (· == '=') s.reverse
    simp [h] at this

/-! ## What the reader holds -/

namespace Accumulator

/-- Whether all bits are within a width. -/
structure IsNarrow (limit : Nat) (a : Accumulator) : Prop where
  width_le : a.width ≤ limit
  bits_lt : a.bits < 2 ^ a.width

theorem IsNarrow.push {a : Accumulator} {limit v : Nat} (h : a.IsNarrow limit) (hv : v < 32) :
    (a.push v).IsNarrow (limit + 5) := by
  refine ⟨Nat.add_le_add_right h.width_le 5, ?_⟩
  have hbits := h.bits_lt
  have hpow : 2 ^ (a.width + 5) = 2 ^ a.width * 32 := Nat.pow_add 2 a.width 5
  show a.bits * 32 + v < 2 ^ (a.width + 5)
  omega

theorem IsNarrow.rest {a : Accumulator} {limit : Nat} (h : a.IsNarrow limit) (hlimit : limit ≤ 15) :
    a.rest.IsNarrow 7 := by
  have hwidth := h.width_le
  unfold Accumulator.rest
  split
  · refine ⟨by dsimp only; omega, ?_⟩
    rw [Nat.one_shiftLeft]
    exact Nat.mod_lt _ (Nat.two_pow_pos _)
  · exact ⟨by omega, h.bits_lt⟩

end Accumulator

/-- What a reader holds after each character it takes in, up to the first one that it refuses. -/
def accumulators (a : Accumulator) : List Char → List Accumulator
  | [] => []
  | c :: s =>
    match value? c with
    | none => []
    | some v => a.push v :: accumulators (a.push v).rest s

/-- The bytes that are read are those that the accumulators of the reader complete. -/
theorem decodeFrom_eq (a : Accumulator) (s : List Char) :
    decodeFrom a s =
      if s.all (fun c => (value? c).isSome) then
        some ((accumulators a s).filterMap Accumulator.byte?)
      else none := by
  induction s generalizing a with
  | nil => rfl
  | cons c s ih =>
    cases hc : value? c with
    | none => simp [decodeFrom, hc]
    | some v =>
      rw [decodeFrom_cons hc, ih, List.all_cons, hc, Option.isSome_some, Bool.true_and]
      split
      · rw [Option.map_some, accumulators, hc, List.filterMap_cons]
        cases (a.push v).byte? <;> rfl
      · rfl

/-- Between characters fewer than eight bits are held, so five more make at most twelve. -/
theorem isNarrow_of_mem_accumulators {a : Accumulator} (ha : a.IsNarrow 7) {s : List Char} :
    ∀ held ∈ accumulators a s, held.IsNarrow 12 := by
  induction s generalizing a with
  | nil => nofun
  | cons c s ih =>
    rw [accumulators]
    split
    · nofun
    · next v hv =>
      have hpush : (a.push v).IsNarrow 12 := ha.push (lt_of_value? c v hv)
      exact List.forall_mem_cons.2 ⟨hpush, ih (hpush.rest (by decide))⟩

/-! ## Which texts are read -/

/-- What a text stands for, by the accumulators of its reader. -/
theorem decode_eq (s : List Char) :
    decode s =
      if (dropPadding s).all (fun c => (value? c).isSome) then
        some ((accumulators {} (dropPadding s)).filterMap Accumulator.byte?)
      else none :=
  decodeFrom_eq {} (dropPadding s)

/-- A text is refused exactly if a character before its filling is not in the alphabet. -/
theorem decode_eq_none_iff {s : List Char} :
    decode s = none ↔ ∃ c ∈ dropPadding s, c.toUpper ∉ alphabet := by
  simp only [decode_eq, ← value?_eq_none_iff, ite_eq_right_iff, reduceCtorEq, imp_false,
    Bool.not_eq_true, List.all_eq_false, Option.isSome_eq_false_iff, Option.isNone_iff_eq_none]

/-- Bytes are read back from their form, whatever the case of its letters and however much it is
filled. A text is refused exactly if a character before its filling is not in the alphabet, and
while it is read no more than twelve bits are held. -/
theorem decode_encode_dressed :
    (∀ bytes : List UInt8,
      (encode bytes).length = 8 * ((bytes.length + 4) / 5) ∧
      (∃ symbols n, encode bytes = symbols ++ List.replicate n '=' ∧
        ∀ c ∈ symbols, c ∈ alphabet) ∧
      decode (encode bytes) = some bytes ∧
      ∀ symbols n dressed n', encode bytes = symbols ++ List.replicate n '=' →
        Text.lower dressed = Text.lower symbols →
          decode (dressed ++ List.replicate n' '=') = some bytes) ∧
    ∀ s : List Char, ∃ body n, s = body ++ List.replicate n '=' ∧ body.getLast? ≠ some '=' ∧
      (decode s = none ↔ ∃ c ∈ body, c.toUpper ∉ alphabet) ∧
      (∀ bytes ∈ decode s, bytes = (accumulators {} body).filterMap Accumulator.byte?) ∧
      ∀ held ∈ accumulators {} body, held.width ≤ 12 ∧ held.bits < 2 ^ 12 := by
  refine ⟨fun bytes => ⟨length_encode bytes, exists_encode_eq bytes, decode_encode bytes, ?_⟩, ?_⟩
  · intro symbols n dressed n' hsymbols hdressed
    calc decode (dressed ++ List.replicate n' '=')
        = decode dressed := decode_append_fill dressed n'
      _ = decode (Text.lower symbols) := by rw [← decode_lower, hdressed]
      _ = decode (symbols ++ List.replicate n '=') := by rw [decode_lower, decode_append_fill]
      _ = some bytes := by rw [← hsymbols, decode_encode]
  · intro s
    obtain ⟨n, heq, hlast⟩ := exists_append_dropPadding s
    refine ⟨dropPadding s, n, heq, hlast, decode_eq_none_iff, fun bytes hbytes => ?_, ?_⟩
    · rw [Option.mem_def, decode_eq] at hbytes
      split at hbytes
      · exact (Option.some.inj hbytes).symm
      · cases hbytes
    · intro held hheld
      have hnarrow := isNarrow_of_mem_accumulators ⟨by decide, by decide⟩ held hheld
      exact ⟨hnarrow.width_le, Nat.lt_of_lt_of_le hnarrow.bits_lt
        (Nat.pow_le_pow_right (by decide) hnarrow.width_le)⟩

/-- Six bytes in small letters and with two of the six `=`. -/
theorem decode_encode_dressed_foobar :
    encode [102, 111, 111, 98, 97, 114] = "MZXW6YTBOI".toList ++ List.replicate 6 '=' ∧
    Text.lower "mzxw6yTBoi".toList = Text.lower "MZXW6YTBOI".toList ∧
    decode ("mzxw6yTBoi".toList ++ List.replicate 2 '=') =
      some [102, 111, 111, 98, 97, 114] := by
  have hencode : encode [102, 111, 111, 98, 97, 114] =
    "MZXW6YTBOI".toList ++ List.replicate 6 '=' := by decide
  have hdressed : Text.lower "mzxw6yTBoi".toList = Text.lower "MZXW6YTBOI".toList := by decide
  exact ⟨hencode, hdressed, (decode_encode_dressed.1 _).2.2.2 _ _ _ 2 hencode hdressed⟩

end TokenInventory.Base32
