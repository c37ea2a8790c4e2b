import Mathlib.Data.List.Basic
import TokenInventory.Text.Basic

/-!
# Offsets in bytes

A text may be cut after a number of bytes unless that falls inside a character (`splitAtByte?`).
Whether it does is seen from the byte that comes next (`isBoundary`). There is a boundary before the
last byte exactly if that byte is a character of its own (`isBoundary_pred_byteLength_iff`).
-/

namespace TokenInventory.Text

theorem byteLength_append (s t : List Char) :
    byteLength (s ++ t) = byteLength s + byteLength t := by
  induction s with
  | nil => simp [byteLength]
  | cons c s ih => simp [byteLength, ih, Nat.add_assoc]

theorem byteLength_eq_zero_iff {s : List Char} : byteLength s = 0 ↔ s = [] := by
  cases s with
  | nil => simp [byteLength]
  | cons c s => simp [byteLength, Nat.ne_of_gt c.utf8Size_pos]

/-- The parts of a text before and behind a number of bytes, unless that falls inside a
character or behind the end. -/
def splitAtByte? : Nat → List Char → Option (List Char × List Char)
  | 0, s => some ([], s)
  | _ + 1, [] => none
  | n + 1, c :: s =>
    if c.utf8Size ≤ n + 1 then
      (splitAtByte? (n + 1 - c.utf8Size) s).map fun (before, after) => (c :: before, after)
    else none

theorem splitAtByte?_byteLength (before after : List Char) :
    splitAtByte? (byteLength before) (before ++ after) = some (before, after) := by
  induction before with
  | nil => cases after <;> rfl
  | cons c before ih =>
    obtain ⟨n, hn⟩ : ∃ n, byteLength (c :: before) = n + 1 :=
      Nat.exists_eq_add_one.2 (Nat.add_pos_left c.utf8Size_pos _)
    have hle : c.utf8Size ≤ n + 1 := hn ▸ Nat.le_add_right _ _
    have hrest : n + 1 - c.utf8Size = byteLength before := by
      rw [← hn, byteLength, Nat.add_sub_cancel_left]
    rw [hn, List.cons_append, splitAtByte?, if_pos hle, hrest, ih]
    rfl

/-! ## Boundaries of characters -/

/-- Whether a byte goes on with the character that an earlier byte begins. -/
def continuesChar (b : UInt8) : Bool :=
  128 ≤ b && b < 192

/-- Whether the end of a text or the begin of a character comes after a number of bytes. -/
def isBoundary (s : List Char) (n : Nat) : Bool :=
  n == 0 ||
    match (s.flatMap String.utf8EncodeChar)[n]? with
    | some b => !continuesChar b
    | none => n == byteLength s

theorem length_flatMap_utf8EncodeChar (s : List Char) :
    (s.flatMap String.utf8EncodeChar).length = byteLength s := by
  induction s with
  | nil => rfl
  | cons c s ih =>
    rw [List.flatMap_cons, List.length_append, ih, String.length_utf8EncodeChar, byteLength]

/-- The last byte of a character goes on with it unless it is the only one. -/
theorem getLast?_utf8EncodeChar (c : Char) : ∃ b, (String.utf8EncodeChar c).getLast? = some b ∧
    (continuesChar b = true ↔ c.utf8Size ≠ 1) := by
  have hlast (v : Nat) (h : v < 256) (k : Nat)
      (hk : k = v ∧ v < 128 ∨ 128 ≤ v ∧ v < 192 ∧ 128 ≤ k) :
      continuesChar (UInt8.ofNat v) = true ↔ ¬k ≤ 127 := by
    simp only [continuesChar, Bool.and_eq_true, decide_eq_true_eq, UInt8.le_iff_toNat_le,
      UInt8.lt_iff_toNat_lt, UInt8.toNat_ofNat_of_lt' h]
    have : UInt8.toNat 128 = 128 := rfl
    have : UInt8.toNat 192 = 192 := rfl
    omega
  rw [Ne, Char.utf8Size_eq_one_iff, UInt32.le_iff_toNat_le]
  unfold String.utf8EncodeChar
  generalize c.val.toNat = v
  dsimp only
  split_ifs
  all_goals exact ⟨_, rfl, hlast _ (by omega) v (by omega)⟩

theorem isBoundary_pred_byteLength_iff (s : List Char) (c : Char) :
    isBoundary (s ++ [c]) (byteLength (s ++ [c]) - 1) = true ↔ c.utf8Size = 1 := by
  obtain ⟨b, hb, hcontinues⟩ := getLast?_utf8EncodeChar c
  have hlast : ((s ++ [c]).flatMap String.utf8EncodeChar)[byteLength (s ++ [c]) - 1]? = some b := by
    rw [← length_flatMap_utf8EncodeChar, ← List.getLast?_eq_getElem?, List.flatMap_append,
      List.flatMap_singleton, List.getLast?_append, hb]
    rfl
  have hlength : byteLength (s ++ [c]) - 1 = 0 → c.utf8Size = 1 := by
    rw [byteLength_append, byteLength, byteLength]
    have := c.utf8Size_pos
    omega
  rw [isBoundary, hlast, Bool.or_eq_true, beq_iff_eq, Bool.not_eq_true', ← Bool.not_eq_true,
    hcontinues, not_not]
  exact ⟨fun h => h.elim hlength id, .inr⟩

end TokenInventory.Text
