import Mathlib.Data.List.MinMax
import TokenInventory.Criteria.Expression
import TokenInventory.Proofs.Text.ByteOffset

/-!
# The first operator of an expression

`splitOperator?` takes a text apart around the leftmost occurrence of an operator
(`splitOperator?_eq_some_iff`). One may as well search for each operator on its own, count the bytes
before it and cut the text where the least count falls (`cutOperator?_eq`). Such a cut never falls
inside a character.
-/

namespace TokenInventory

theorem OperatorSign.eq_of_chars_append {sign sign' : OperatorSign} {s s' : List Char}
    (h : sign.chars ++ s = sign'.chars ++ s') : sign = sign' ∧ s = s' := by
  cases sign <;> cases sign' <;> simp_all [chars]

/-- `sign` stands between `before` and `after` in a text, and no operator begins earlier. -/
structure StandsFirst (s before : List Char) (sign : OperatorSign) (after : List Char) : Prop where
  eq_append : s = before ++ (sign.chars ++ after)
  leftmost : ∀ sign' before' after', s = before' ++ (OperatorSign.chars sign' ++ after') →
    before.length ≤ before'.length

namespace StandsFirst

variable {s before after : List Char} {sign : OperatorSign} {c : Char}

/-- An operator at the start of a text is the first one. -/
theorem sign_append_iff {start : OperatorSign} :
    StandsFirst (start.chars ++ s) before sign after ↔ before = [] ∧ sign = start ∧ after = s := by
  constructor
  · intro h
    have hnil : before = [] := List.length_eq_zero_iff.1 (Nat.le_zero.1 (h.leftmost start [] s rfl))
    subst hnil
    obtain ⟨hsign, hs⟩ := OperatorSign.eq_of_chars_append h.eq_append
    exact ⟨rfl, hsign.symm, hs.symm⟩
  · rintro ⟨rfl, rfl, rfl⟩
    exact ⟨rfl, fun _ _ _ _ => Nat.zero_le _⟩

/-- If a text does not start with an operator, the first one is that of the rest. -/
theorem cons_iff (hc : ∀ (start : OperatorSign) (t : List Char), c :: s ≠ start.chars ++ t) :
    StandsFirst (c :: s) before sign after ↔
      ∃ rest, before = c :: rest ∧ StandsFirst s rest sign after := by
  constructor
  · rintro ⟨heq, hleft⟩
    cases before with
    | nil => exact absurd heq (hc _ _)
    | cons d rest =>
      obtain ⟨rfl, rfl⟩ := List.cons.inj heq
      exact ⟨rest, rfl, rfl, fun sign' before' after' h =>
        Nat.le_of_succ_le_succ (hleft sign' (c :: before') after' (congrArg (c :: ·) h))⟩
  · rintro ⟨rest, rfl, rfl, hleft⟩
    refine ⟨rfl, fun sign' before' after' h => ?_⟩
    cases before' with
    | nil => exact absurd h (hc _ _)
    | cons d before' => exact Nat.succ_le_succ (hleft sign' before' after' (List.cons.inj h).2)

/-- An operator is the first one if nothing before it can begin one. -/
theorem of_forall_mem (sign : OperatorSign) (after : List Char)
    (h : ∀ c ∈ before, c ≠ '=' ∧ c ≠ '>' ∧ c ≠ '<') :
    StandsFirst (before ++ (sign.chars ++ after)) before sign after := by
  induction before with
  | nil => exact sign_append_iff.2 ⟨rfl, rfl, rfl⟩
  | cons c before ih =>
    obtain ⟨hequal, hgreater, hsmaller⟩ := h c List.mem_cons_self
    refine (cons_iff fun start t heq => ?_).2 ⟨before, rfl, ih fun d hd => h d (.tail _ hd)⟩
    cases start <;> exact absurd (List.cons.inj heq).1 ‹_›

end StandsFirst

theorem splitOperator?_sign_append (sign : OperatorSign) (s : List Char) :
    splitOperator? (sign.chars ++ s) = some ([], sign, s) := by
  cases sign <;> rfl

theorem splitOperator?_cons {c : Char} {s : List Char}
    (hc : ∀ (start : OperatorSign) (t : List Char), c :: s ≠ start.chars ++ t) :
    splitOperator? (c :: s) =
      (splitOperator? s).map fun (before, sign, after) => (c :: before, sign, after) := by
  rw [splitOperator?.eq_def]
  split
  · next heq => exact absurd heq (hc .equal _)
  · next heq => exact absurd heq (hc .atLeast _)
  · next heq => exact absurd heq (hc .atMost _)
  · next heq => cases heq
  · next heq =>
    obtain ⟨rfl, rfl⟩ := List.cons.inj heq
    rfl

/-- A text is taken apart around its leftmost operator. -/
theorem splitOperator?_eq_some_iff {s before after : List Char} {sign : OperatorSign} :
    splitOperator? s = some (before, sign, after) ↔ StandsFirst s before sign after := by
  induction s generalizing before with
  | nil =>
    refine iff_of_false (by simp [splitOperator?]) fun h => ?_
    cases sign <;> cases before <;> cases h.eq_append
  | cons c s ih =>
    by_cases hc : ∃ (start : OperatorSign) (t : List Char), c :: s = start.chars ++ t
    · obtain ⟨start, t, heq⟩ := hc
      rw [heq, splitOperator?_sign_append, StandsFirst.sign_append_iff]
      simp only [Option.some.injEq, Prod.mk.injEq]
      exact ⟨fun ⟨h₁, h₂, h₃⟩ => ⟨h₁.symm, h₂.symm, h₃.symm⟩,
        fun ⟨h₁, h₂, h₃⟩ => ⟨h₁.symm, h₂.symm, h₃.symm⟩⟩
    · push Not at hc
      rw [splitOperator?_cons hc, StandsFirst.cons_iff hc, Option.map_eq_some_iff]
      constructor
      · rintro ⟨⟨rest, sign', after'⟩, h, heq⟩
        obtain ⟨rfl, rfl, rfl⟩ := by simpa only [Prod.mk.injEq] using heq
        exact ⟨rest, rfl, ih.1 h⟩
      · rintro ⟨rest, rfl, h⟩
        exact ⟨_, ih.2 h, rfl⟩

/-- A text that is not taken apart has no operator. -/
theorem splitOperator?_append_ne_none (before : List Char) (sign : OperatorSign)
    (after : List Char) : splitOperator? (before ++ (sign.chars ++ after)) ≠ none := by
  induction before with
  | nil => simp [splitOperator?_sign_append]
  | cons c before ih =>
    rw [List.cons_append]
    by_cases hc : ∃ (start : OperatorSign) (t : List Char),
        c :: (before ++ (sign.chars ++ after)) = start.chars ++ t
    · obtain ⟨start, t, heq⟩ := hc
      rw [heq, splitOperator?_sign_append]
      nofun
    · push Not at hc
      rw [splitOperator?_cons hc, Ne, Option.map_eq_none_iff]
      exact ih

/-! ## Offsets in bytes -/

namespace Text

/-- The number of bytes before the first occurrence of a word. -/
def byteOffset? (word : List Char) : List Char → Option Nat
  | [] => if word = [] then some 0 else none
  | c :: s =>
    if startsWith word (c :: s) then some 0 else (byteOffset? word s).map (c.utf8Size + ·)

theorem startsWith_iff {word s : List Char} :
    startsWith word s = true ↔ ∃ after, s = word ++ after := by
  unfold startsWith
  induction word generalizing s with
  | nil => simp [stripPrefix?]
  | cons a word ih =>
    cases s with
    | nil => simp [stripPrefix?]
    | cons c s =>
      rw [stripPrefix?]
      split
      · next h =>
        subst h
        simp [ih]
      · next h =>
        simp only [Option.isSome_none, Bool.false_eq_true, false_iff]
        rintro ⟨after, heq⟩
        exact h (List.cons.inj heq).1.symm

/-- An offset that is found is that of an occurrence. -/
theorem exists_eq_append_of_byteOffset? {word s : List Char} {n : Nat}
    (h : byteOffset? word s = some n) :
    ∃ before after, s = before ++ (word ++ after) ∧ byteLength before = n := by
  induction s generalizing n with
  | nil =>
    rw [byteOffset?] at h
    split at h
    · next hword => exact ⟨[], [], by simp [hword], Option.some.inj h⟩
    · cases h
  | cons c s ih =>
    rw [byteOffset?] at h
    split at h
    · next hstart =>
      obtain ⟨after, heq⟩ := startsWith_iff.1 hstart
      exact ⟨[], after, heq, Option.some.inj h⟩
    · obtain ⟨m, hm, rfl⟩ := Option.map_eq_some_iff.1 h
      obtain ⟨before, after, rfl, rfl⟩ := ih hm
      exact ⟨c :: before, after, rfl, rfl⟩

/-- No occurrence begins before the offset that is found. -/
theorem exists_byteOffset?_le (before : List Char) (word after : List Char) :
    ∃ n, byteOffset? word (before ++ (word ++ after)) = some n ∧ n ≤ byteLength before := by
  induction before with
  | nil =>
    refine ⟨0, ?_, Nat.le_refl _⟩
    rw [List.nil_append]
    cases hs : word ++ after with
    | nil => rw [byteOffset?, if_pos (List.append_eq_nil_iff.1 hs).1]
    | cons c s => rw [byteOffset?, if_pos (startsWith_iff.2 ⟨after, hs.symm⟩)]
  | cons c before ih =>
    obtain ⟨n, hn, hle⟩ := ih
    rw [List.cons_append, byteOffset?, hn]
    split
    · exact ⟨0, rfl, Nat.zero_le _⟩
    · exact ⟨_, rfl, Nat.add_le_add_left hle _⟩

end Text

open Text

/-- The operator that begins after the fewest bytes, with their number. -/
def leastOffset? (s : List Char) : Option (Nat × OperatorSign) :=
  ([OperatorSign.equal, .atLeast, .atMost].filterMap fun sign =>
    (byteOffset? sign.chars s).map (·, sign)).argmin Prod.fst

/-- The parts of a text around its first operator, cut out by numbers of bytes; there is nothing
inside if a cut cannot be made. -/
def cutOperator? (s : List Char) : Option (Option (List Char × OperatorSign × List Char)) :=
  (leastOffset? s).map fun (offset, sign) => do
    let (before, _) ← splitAtByte? offset s
    let (_, after) ← splitAtByte? (offset + byteLength sign.chars) s
    return (before, sign, after)

theorem mem_offsets_iff {s : List Char} {n : Nat} {sign : OperatorSign} :
    ((n, sign) ∈ [OperatorSign.equal, .atLeast, .atMost].filterMap fun sign =>
      (byteOffset? sign.chars s).map (·, sign)) ↔ byteOffset? sign.chars s = some n := by
  rw [List.mem_filterMap]
  constructor
  · rintro ⟨sign', -, h⟩
    obtain ⟨m, hm, heq⟩ := Option.map_eq_some_iff.1 h
    obtain ⟨rfl, rfl⟩ := Prod.mk.inj heq
    exact hm
  · intro h
    exact ⟨sign, by cases sign <;> simp, by rw [h]; rfl⟩

/-- The least offset is that of the leftmost operator. -/
theorem leastOffset?_eq (s : List Char) :
    leastOffset? s =
      (splitOperator? s).map fun (before, sign, _) => (byteLength before, sign) := by
  cases hleast : leastOffset? s with
  | none =>
    have hnil := List.argmin_eq_none.1 hleast
    cases hsplit : splitOperator? s with
    | none => rfl
    | some parts =>
      obtain ⟨before, sign, after⟩ := parts
      obtain ⟨n, hn, -⟩ := exists_byteOffset?_le before sign.chars after
      rw [← (splitOperator?_eq_some_iff.1 hsplit).eq_append, ← mem_offsets_iff, hnil] at hn
      cases hn
  | some found =>
    obtain ⟨n, sign'⟩ := found
    have hfound := mem_offsets_iff.1 (List.argmin_mem hleast)
    obtain ⟨before', after', heq', rfl⟩ := exists_eq_append_of_byteOffset? hfound
    cases hsplit : splitOperator? s with
    | none => exact absurd (heq' ▸ hsplit) (splitOperator?_append_ne_none _ _ _)
    | some parts =>
      obtain ⟨before, sign, after⟩ := parts
      obtain ⟨heq, hleft⟩ := splitOperator?_eq_some_iff.1 hsplit
      -- `before` is the shorter one in characters, `before'` is not the longer one in bytes
      obtain ⟨gap, rfl⟩ := List.prefix_of_prefix_length_le ⟨_, heq.symm⟩ ⟨_, heq'.symm⟩
        (hleft _ _ _ heq')
      have hbytes : byteLength (before ++ gap) ≤ byteLength before := by
        obtain ⟨m, hm, hle⟩ := exists_byteOffset?_le before sign.chars after
        rw [← heq, ← mem_offsets_iff] at hm
        exact (List.le_of_mem_argmin hm hleast).trans hle
      obtain rfl : gap = [] := by
        rw [byteLength_append] at hbytes
        exact byteLength_eq_zero_iff.1 (by omega)
      rw [List.append_nil] at heq' ⊢
      have hsign := List.append_cancel_left (heq.symm.trans heq')
      rw [(OperatorSign.eq_of_chars_append hsign).1]
      rfl

/-- Cutting by numbers of bytes never fails, and gives the parts around the leftmost operator. -/
theorem cutOperator?_eq (s : List Char) : cutOperator? s = (splitOperator? s).map some := by
  rw [cutOperator?, leastOffset?_eq, Option.map_map]
  cases hsplit : splitOperator? s with
  | none => rfl
  | some parts =>
    obtain ⟨before, sign, after⟩ := parts
    have heq := (splitOperator?_eq_some_iff.1 hsplit).eq_append
    have hbefore : splitAtByte? (byteLength before) s = some (before, sign.chars ++ after) := by
      rw [heq, splitAtByte?_byteLength]
    have hafter : splitAtByte? (byteLength before + byteLength sign.chars) s =
        some (before ++ sign.chars, after) := by
      rw [heq, ← byteLength_append, ← List.append_assoc, splitAtByte?_byteLength]
    simp only [Option.map_some, Function.comp_apply, hbefore, hafter]
    rfl

end TokenInventory
