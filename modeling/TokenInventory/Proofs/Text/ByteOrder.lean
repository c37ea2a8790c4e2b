import Mathlib.Data.List.Lex
import Mathlib.Data.String.Basic
import TokenInventory.Text.Basic

/-!
# Texts as bytes

The UTF-8 form of a text keeps the order of texts: a text comes before another one by code points
exactly if its bytes come first (`utf8_lt_iff`). Neither form of two different characters begins
the other, so the first difference of the bytes lies within the first different character
(`utf8EncodeChar_append_lt`).
-/

namespace TokenInventory.Text

/-- The bytes of a text in UTF-8. -/
def utf8 (s : String) : List UInt8 :=
  s.toByteArray.data.toList

theorem utf8_eq_flatMap (s : String) : utf8 s = s.toList.flatMap String.utf8EncodeChar := by
  rw [utf8, ← String.utf8Encode_toList, List.utf8Encode, List.toList_data_toByteArray]

theorem cons_lt_cons {a b : Nat} {x y : List UInt8} (ha : a < 256) (hb : b < 256)
    (h : a < b ∨ a = b ∧ x < y) : UInt8.ofNat a :: x < UInt8.ofNat b :: y := by
  rw [List.cons_lt_cons_iff, UInt8.lt_iff_toNat_lt, UInt8.toNat_ofNat_of_lt' ha,
    UInt8.toNat_ofNat_of_lt' hb]
  exact h.imp id fun ⟨hab, hxy⟩ => ⟨congrArg UInt8.ofNat hab, hxy⟩

/-- Continuation bytes compare like the numbers whose last six bits they hold. -/
theorem continuation_lt {m n : Nat} {x y : List UInt8} (hhigh : m / 64 = n / 64)
    (h : m < n ∨ m = n ∧ x < y) :
    UInt8.ofNat (m % 64 + 128) :: x < UInt8.ofNat (n % 64 + 128) :: y :=
  cons_lt_cons (by omega) (by omega) (h.imp (by omega) fun ⟨hmn, hxy⟩ => ⟨by omega, hxy⟩)

theorem utf8EncodeChar_append_lt {c d : Char} (h : c < d) (x y : List UInt8) :
    String.utf8EncodeChar c ++ x < String.utf8EncodeChar d ++ y := by
  have hlt : c.val.toNat < d.val.toNat := h
  have hd : d.val.toNat < 0x110000 := d.valid.elim (fun h => by omega) fun h => h.2
  unfold String.utf8EncodeChar
  generalize c.val.toNat = v, d.val.toNat = w at hlt hd
  have h6 : v / 64 < w / 64 ∨ v / 64 = w / 64 := by omega
  have h12 : v / 4096 < w / 4096 ∨ v / 4096 = w / 4096 := by omega
  have h18 : v / 262144 < w / 262144 ∨ v / 262144 = w / 262144 := by omega
  -- forms of different lengths differ in their first bytes
  simp only
  split_ifs <;> simp only [List.cons_append, List.nil_append] <;>
    try exact cons_lt_cons (by omega) (by omega) (.inl (by omega))
  · refine cons_lt_cons (by omega) (by omega) (h6.imp (by omega) fun h6 => ⟨by omega, ?_⟩)
    exact continuation_lt h6 (.inl hlt)
  · refine cons_lt_cons (by omega) (by omega) (h12.imp (by omega) fun h12 => ⟨by omega, ?_⟩)
    refine continuation_lt (by omega) (h6.imp id fun h6 => ⟨h6, ?_⟩)
    exact continuation_lt h6 (.inl hlt)
  · refine cons_lt_cons (by omega) (by omega) (h18.imp (by omega) fun h18 => ⟨by omega, ?_⟩)
    refine continuation_lt (by omega) (h12.imp id fun h12 => ⟨h12, ?_⟩)
    refine continuation_lt (by omega) (h6.imp id fun h6 => ⟨h6, ?_⟩)
    exact continuation_lt h6 (.inl hlt)

theorem flatMap_utf8EncodeChar_lt {l l' : List Char} (h : l < l') :
    l.flatMap String.utf8EncodeChar < l'.flatMap String.utf8EncodeChar := by
  induction h with
  | @nil d l' =>
    rw [List.flatMap_cons]
    cases hd : String.utf8EncodeChar d with
    | nil => exact absurd hd String.utf8EncodeChar_ne_nil
    | cons b x => exact List.nil_lt_cons b _
  | rel h => exact utf8EncodeChar_append_lt h _ _
  | cons _ ih => exact List.append_left_lt ih

/-- The order of texts is the order of their bytes. -/
theorem utf8_lt_iff {s t : String} : utf8 s < utf8 t ↔ s < t := by
  have mono : ∀ {s t : String}, s < t → utf8 s < utf8 t := fun {s t} h => by
    rw [utf8_eq_flatMap, utf8_eq_flatMap]
    exact flatMap_utf8EncodeChar_lt (String.lt_iff_toList_lt.1 h)
  refine ⟨fun h => ?_, mono⟩
  rcases lt_trichotomy s t with hst | rfl | hts
  · exact hst
  · exact absurd h (List.lt_irrefl _)
  · exact absurd h (List.lt_asymm (mono hts))

end TokenInventory.Text
