/-!
# Blank characters

`isBlank` is the Unicode property `White_Space`, twenty-five characters in all. Every text a user or
a stored document supplies is stripped of blanks at both ends before it is read as a number, a
date, an age, a list item or a field name.

`trim_append_blank` and `blank_append_trim` say that blanks around a text do not matter.
-/

namespace TokenInventory.Text

/-- The characters with the Unicode property `White_Space`. -/
def isBlank (c : Char) : Bool :=
  let n := c.toNat
  (9 ≤ n && n ≤ 13) || n == 0x20 || n == 0x85 || n == 0xA0 || n == 0x1680 ||
    (0x2000 ≤ n && n ≤ 0x200A) || n == 0x2028 || n == 0x2029 || n == 0x202F || n == 0x205F ||
    n == 0x3000

/-- A text without the blanks it starts with. -/
def trimStart (s : List Char) : List Char :=
  s.dropWhile isBlank

/-- A text without the blanks it ends with. -/
def trimEnd (s : List Char) : List Char :=
  (trimStart s.reverse).reverse

/-- A text without blanks at either end. -/
def trim (s : List Char) : List Char :=
  trimEnd (trimStart s)

/-- `trim` on strings. -/
def trimmed (s : String) : String :=
  String.ofList (trim s.toList)

theorem trimStart_blank_append {w : List Char} (s : List Char) (h : ∀ c ∈ w, isBlank c) :
    trimStart (w ++ s) = trimStart s := by
  induction w with
  | nil => rfl
  | cons c w ih =>
    have hc : isBlank c = true := h c (by simp)
    simpa [trimStart, hc] using ih fun d hd => h d (by simp [hd])

theorem trimEnd_append_blank {w : List Char} (s : List Char) (h : ∀ c ∈ w, isBlank c) :
    trimEnd (s ++ w) = trimEnd s := by
  simp [trimEnd, trimStart_blank_append s.reverse (w := w.reverse) (by simpa using h)]

/-- Blanks before a text do not matter. -/
theorem blank_append_trim {w : List Char} (s : List Char) (h : ∀ c ∈ w, isBlank c) :
    trim (w ++ s) = trim s := by
  simp [trim, trimStart_blank_append s h]

/-- Blanks after a text do not matter. -/
theorem trim_append_blank {w : List Char} (s : List Char) (h : ∀ c ∈ w, isBlank c) :
    trim (s ++ w) = trim s := by
  have hw : trimStart w = [] := by
    simpa [trimStart] using trimStart_blank_append [] h
  rw [trim, trim, trimStart, trimStart, List.dropWhile_append]
  split
  case isTrue hs => rw [List.isEmpty_iff.1 hs, ← trimStart, hw]
  case isFalse => exact trimEnd_append_blank _ h

end TokenInventory.Text
