import TokenInventory.Pattern.Reader

/-!
# Plain patterns

A text without special characters is a pattern for itself: it is read to its end, one part for each
character (`readParts_plain`). Such a pattern is one level deep and weighs as much as it has
characters, so it is refused only if it is too long (`ofText?_eq_none_iff`). A text that begins with
a repetition is no pattern.
-/

namespace TokenInventory.Pattern

/-- The characters that do not stand for themselves in a pattern. -/
def specialChars : List Char :=
  ['\\', '.', '+', '*', '?', '(', ')', '|', '[', '\x7b', '^', '$']

/-- The part of a pattern that one character is. -/
def charPart (c : Char) : Part where
  pattern := .one (.char c)

theorem readParts_cons {c : Char} (hc : c ∉ specialChars) (fuel : Nat) (finished parts : List Part)
    (s : List Char) (names : List (List Char)) :
    readParts (fuel + 1) finished parts { rest := c :: s, flags := {}, names } =
      readParts fuel finished (charPart c :: parts) { rest := s, flags := {}, names } := by
  rw [readParts]
  simp only [Flags.skip, Bool.false_eq_true, if_false]
  -- each special character has a case of its own, the last case is that of all other characters
  split
  case h_14 heq =>
    obtain ⟨rfl, rfl⟩ := List.cons.inj heq
    rfl
  all_goals simp_all [specialChars]

/-- A text of plain characters is read to its end, each character as one part. -/
theorem readParts_plain {s : List Char} (h : ∀ c ∈ s, c ∉ specialChars) {fuel : Nat}
    (hfuel : s.length < fuel) (parts : List Part) :
    readParts fuel [] parts { rest := s, flags := {}, names := [] } =
      some (Part.seqOf (s.reverse.map charPart ++ parts),
        { rest := [], flags := {}, names := [] }) := by
  induction s generalizing fuel parts with
  | nil =>
    obtain ⟨fuel, rfl⟩ := Nat.exists_eq_add_one.2 hfuel
    rfl
  | cons c s ih =>
    rw [List.forall_mem_cons] at h
    obtain ⟨fuel, rfl⟩ := Nat.exists_eq_add_one.2 (Nat.zero_lt_of_lt hfuel)
    rw [readParts_cons h.1, ih h.2 (Nat.lt_of_succ_lt_succ hfuel)]
    simp

/-! ## Depth and weight -/

theorem weight_charPart (c : Char) : (charPart c).pattern.weight = 1 := by
  unfold charPart weight CharClass.char CharClass.weight
  split <;> simp

theorem weight_foldl_charPart (s : List Char) (q : Pattern) :
    ((s.map charPart).foldl (fun q part => .seq part.pattern q) q).weight =
      s.length + q.weight := by
  induction s generalizing q with
  | nil => exact (Nat.zero_add _).symm
  | cons c s ih =>
    rw [List.map_cons, List.foldl_cons, ih, weight, weight_charPart, List.length_cons]
    omega

theorem depth_foldl_charPart (s : List Char) :
    (s.map charPart).foldl (fun depth part => max depth part.depth) 0 = 0 := by
  induction s with
  | nil => rfl
  | cons c s ih => exact ih

theorem weight_seqOf_charPart {s : List Char} (h : s ≠ []) :
    (Part.seqOf (s.map charPart)).pattern.weight = s.length := by
  cases s with
  | nil => exact absurd rfl h
  | cons c s =>
    cases s with
    | nil => exact weight_charPart c
    | cons d s =>
      have hrest := weight_foldl_charPart (d :: s) (charPart c).pattern
      rw [weight_charPart] at hrest
      exact hrest

theorem depth_seqOf_charPart_le (s : List Char) : (Part.seqOf (s.map charPart)).depth ≤ 1 := by
  match s with
  | [] | [_] => exact Nat.zero_le _
  | c :: d :: s =>
    have hdepth := depth_foldl_charPart (c :: d :: s)
    simp only [Part.seqOf, List.map_cons] at hdepth ⊢
    omega

/-- A text of plain characters is a pattern unless it is too long. -/
theorem ofText?_eq_none_iff {limit : Nat} {s : String} (hne : s ≠ "")
    (h : ∀ c ∈ s.toList, c ∉ specialChars) :
    ofText? limit s = none ↔ limit < s.toList.length := by
  have hreverse : s.toList.reverse ≠ [] := by simpa using hne
  have hweight := weight_seqOf_charPart hreverse
  have hdepth := depth_seqOf_charPart_le s.toList.reverse
  rw [List.length_reverse] at hweight
  have hfits : (Part.seqOf (s.toList.reverse.map charPart)).depth ≤ depthLimit :=
    Nat.le_trans hdepth (by decide)
  rw [ofText?, readParts_plain h (Nat.lt_succ_self _), List.append_nil]
  simp only [bind, Option.bind, hweight, hfits, true_and]
  split
  · next hle => simp [hle]
  · next hlt => simpa using hlt

/-- A repetition has to follow something. -/
theorem ofText?_of_plus {limit : Nat} {s : String} (h : s.toList.head? = some '+') :
    ofText? limit s = none := by
  obtain ⟨rest, hrest⟩ := List.head?_eq_some_iff.1 h
  rw [ofText?, hrest, List.length_cons, readParts]
  rfl

end TokenInventory.Pattern
