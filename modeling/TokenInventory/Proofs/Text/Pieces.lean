import Mathlib.Data.List.Infix
import TokenInventory.Text.Basic

/-!
# Pieces of a text

A text is taken apart at each separator (`splitOn_eq_iff`) or at each occurrence of a word
(`splitWord`). If no part of a word is both its beginning and its end, occurrences are exactly where
the word was put between pieces without it (`splitWord_eq_iff`). To replace a word is to put another
one between the pieces (`replaceAll`).
-/

namespace TokenInventory.Text

theorem intercalate_modifyHead_cons (between : List Char) (c : Char) {pieces : List (List Char)}
    (h : pieces ≠ []) :
    between.intercalate (pieces.modifyHead (c :: ·)) = c :: between.intercalate pieces := by
  obtain ⟨piece, pieces, rfl⟩ := List.exists_cons_of_ne_nil h
  cases pieces <;> simp

theorem mem_intercalate_iff {between : List Char} {c : Char} (h : c ∉ between)
    {pieces : List (List Char)} :
    c ∈ between.intercalate pieces ↔ ∃ piece ∈ pieces, c ∈ piece := by
  induction pieces with
  | nil => simp
  | cons piece pieces ih =>
    cases pieces with
    | nil => simp
    | cons => simp [List.intercalate_cons_cons, h, ih]

theorem intercalate_append_nil (between : List Char) (pieces : List (List Char)) :
    between.intercalate (pieces ++ [[]]) = pieces.flatMap (· ++ between) := by
  induction pieces with
  | nil => rfl
  | cons piece pieces ih =>
    rw [List.cons_append, List.intercalate_cons_of_ne_nil (by simp), ih, List.flatMap_cons,
      List.append_assoc]

theorem toList_joinWith (separator : String) (texts : List String) :
    (joinWith separator texts).toList = separator.toList.intercalate (texts.map String.toList) := by
  induction texts with
  | nil => rfl
  | cons s texts ih =>
    cases texts with
    | nil => simp [joinWith]
    | cons t texts =>
      rw [joinWith, String.toList_append, String.toList_append, ih, List.map_cons, List.map_cons,
        List.map_cons, List.intercalate_cons_cons]

/-! ## Between separators -/

theorem splitAll_eq_splitOn (separator : Char) (s : List Char) :
    splitAll separator s = s.splitOn separator := by
  induction s with
  | nil => rfl
  | cons c s ih =>
    rw [splitAll, ih, List.splitOn_cons_eq_if_modifyHead]
    by_cases hc : c = separator
    · simp [hc]
    · rw [if_neg hc, if_neg (by simpa using hc)]
      obtain ⟨piece, pieces, heq⟩ := List.exists_cons_of_ne_nil (List.splitOn_ne_nil separator s)
      rw [heq, List.modifyHead_cons]

theorem not_mem_of_mem_splitOn {separator : Char} {s piece : List Char}
    (h : piece ∈ s.splitOn separator) : separator ∉ piece := by
  induction s generalizing piece with
  | nil =>
    rw [List.splitOn_nil, List.mem_singleton] at h
    simp [h]
  | cons c s ih =>
    obtain ⟨first, pieces, heq⟩ := List.exists_cons_of_ne_nil (List.splitOn_ne_nil separator s)
    rw [List.splitOn_cons_eq_if_modifyHead, heq, List.modifyHead_cons] at h
    rw [heq, List.forall_mem_cons] at ih
    split at h <;> rcases List.mem_cons.1 h with rfl | h
    · simp
    · exact (List.mem_cons.1 h).elim (· ▸ ih.1) (ih.2 _)
    · next hc =>
      simp only [beq_iff_eq] at hc
      exact List.not_mem_cons_of_ne_of_not_mem (Ne.symm hc) ih.1
    · exact ih.2 _ h

/-- The pieces between the separators of a text are those without a separator that make it up. -/
theorem splitOn_eq_iff {separator : Char} {s : List Char} {pieces : List (List Char)} :
    s.splitOn separator = pieces ↔ pieces ≠ [] ∧ (∀ piece ∈ pieces, separator ∉ piece) ∧
      s = [separator].intercalate pieces := by
  constructor
  · rintro rfl
    exact ⟨List.splitOn_ne_nil _ _, fun _ => not_mem_of_mem_splitOn,
      (List.intercalate_splitOn _).symm⟩
  · rintro ⟨hne, hpieces, rfl⟩
    exact List.splitOn_intercalate _ hpieces hne

/-- Texts that are ended by a separator each are told apart exactly if it is in none of them. -/
theorem splitOn_ended_iff {separator : Char} {texts : List (List Char)} :
    (texts.flatMap (· ++ [separator])).splitOn separator = texts ++ [[]] ↔
      ∀ s ∈ texts, separator ∉ s := by
  rw [splitOn_eq_iff, intercalate_append_nil, and_iff_right (by simp), and_iff_left rfl,
    List.forall_mem_append, List.forall_mem_singleton, and_iff_left List.not_mem_nil]

/-! ## Between the occurrences of a word -/

/-- The pieces of a text between the occurrences of a word, after so many characters that still
belong to an occurrence. -/
def splitWordFrom (word : List Char) : Nat → List Char → List (List Char)
  | _, [] => [[]]
  | skip + 1, _ :: s => splitWordFrom word skip s
  | 0, c :: s =>
    if word.isPrefixOf (c :: s) then [] :: splitWordFrom word (word.length - 1) s
    else (splitWordFrom word 0 s).modifyHead (c :: ·)

/-- The pieces of a text between the occurrences of a word, which are found from the left and do not
overlap. -/
def splitWord (word s : List Char) : List (List Char) :=
  splitWordFrom word 0 s

/-- A text with the occurrences of a word, found from the left, replaced. -/
def replaceAll (word new s : List Char) : List Char :=
  new.intercalate (splitWord word s)

variable {word : List Char}

theorem splitWordFrom_ne_nil (word : List Char) (skip : Nat) (s : List Char) :
    splitWordFrom word skip s ≠ [] := by
  fun_induction splitWordFrom word skip s with
  | case1 => exact List.cons_ne_nil _ _
  | case2 _ _ _ ih => exact ih
  | case3 => exact List.cons_ne_nil _ _
  | case4 _ _ _ ih => rwa [Ne, List.modifyHead_eq_nil_iff]

theorem splitWord_ne_nil (word s : List Char) : splitWord word s ≠ [] :=
  splitWordFrom_ne_nil word 0 s

theorem splitWordFrom_append (word skipped s : List Char) :
    splitWordFrom word skipped.length (skipped ++ s) = splitWord word s := by
  induction skipped with
  | nil => rfl
  | cons c skipped ih => exact ih

theorem splitWord_word_append (hword : word ≠ []) (s : List Char) :
    splitWord word (word ++ s) = [] :: splitWord word s := by
  obtain ⟨c, later, rfl⟩ := List.exists_cons_of_ne_nil hword
  rw [splitWord, List.cons_append, splitWordFrom, if_pos]
  · exact congrArg _ (splitWordFrom_append _ later s)
  · rw [List.isPrefixOf_iff_prefix]
    exact ⟨s, rfl⟩

theorem splitWord_cons {c : Char} {s : List Char} (h : ¬word <+: c :: s) :
    splitWord word (c :: s) = (splitWord word s).modifyHead (c :: ·) := by
  rw [splitWord, splitWordFrom, if_neg (by rwa [List.isPrefixOf_iff_prefix]), splitWord]

theorem intercalate_splitWordFrom (hword : word ≠ []) (skip : Nat) (s : List Char) :
    word.intercalate (splitWordFrom word skip s) = s.drop skip := by
  fun_induction splitWordFrom word skip s with
  | case1 => simp
  | case2 _ _ _ ih => exact ih
  | case3 c s hprefix ih =>
    obtain ⟨rest, heq⟩ := List.isPrefixOf_iff_prefix.1 hprefix
    obtain ⟨d, later, rfl⟩ := List.exists_cons_of_ne_nil hword
    obtain ⟨rfl, rfl⟩ := List.cons.inj heq
    rw [List.intercalate_cons_of_ne_nil (splitWordFrom_ne_nil _ _ _), ih]
    simp
  | case4 c s _ ih =>
    rw [intercalate_modifyHead_cons _ _ (splitWordFrom_ne_nil _ _ _), ih]
    rfl

/-- A text is made up of its pieces. -/
theorem intercalate_splitWord (hword : word ≠ []) (s : List Char) :
    word.intercalate (splitWord word s) = s :=
  intercalate_splitWordFrom hword 0 s

theorem not_infix_of_mem_splitWordFrom (hword : word ≠ []) {skip : Nat} {s : List Char} :
    ∀ piece ∈ splitWordFrom word skip s, ¬word <:+: piece := by
  fun_induction splitWordFrom word skip s with
  | case1 => simpa using hword
  | case2 _ _ _ ih => exact ih
  | case3 _ _ _ ih => exact List.forall_mem_cons.2 ⟨by simpa using hword, ih⟩
  | case4 c s hprefix ih =>
    obtain ⟨piece, pieces, heq⟩ := List.exists_cons_of_ne_nil (splitWordFrom_ne_nil word 0 s)
    have hs := intercalate_splitWord hword s
    rw [splitWord, heq] at hs
    rw [heq, List.forall_mem_cons] at ih
    rw [heq, List.modifyHead_cons]
    refine List.forall_mem_cons.2 ⟨fun hinfix => ?_, ih.2⟩
    rcases List.infix_cons_iff.1 hinfix with hstart | hinfix
    · -- The first piece begins the text, so the word would have been found there.
      refine hprefix (List.isPrefixOf_iff_prefix.2 (hstart.trans ?_))
      rw [← hs]
      cases pieces with
      | nil => simp
      | cons => simp [List.intercalate_cons_cons]
    · exact ih.1 hinfix

theorem splitWord_of_not_infix {piece : List Char} (h : ¬word <:+: piece) :
    splitWord word piece = [piece] := by
  induction piece with
  | nil => rfl
  | cons c piece ih =>
    rw [List.infix_cons_iff, not_or] at h
    rw [splitWord_cons h.1, ih h.2, List.modifyHead_cons]

/-- Whether no beginning of a word is its end as well, the empty one and the word itself aside. -/
def IsUnbordered (word : List Char) : Prop :=
  ∀ t, t <+: word → t <:+ word → t = [] ∨ t = word

theorem isUnbordered_pair {a b : Char} (h : a ≠ b) : IsUnbordered [a, b] := by
  intro t hstart hend
  match t with
  | [] => exact .inl rfl
  | [c] =>
    obtain ⟨rfl, -⟩ := List.cons_prefix_cons.1 hstart
    simp [List.suffix_cons_iff, h] at hend
  | c :: d :: t => exact .inr (hstart.eq_of_length_le (by simp))

/-- An occurrence after a piece without the word does not begin in the piece. -/
theorem IsUnbordered.not_prefix (hword : IsUnbordered word) {piece : List Char}
    (hpiece : piece ≠ []) (h : ¬word <:+: piece) (rest : List Char) :
    ¬word <+: piece ++ (word ++ rest) := by
  intro hprefix
  rcases le_or_gt word.length piece.length with hle | hlt
  · exact h (List.prefix_of_prefix_length_le hprefix (List.prefix_append _ _) hle).isInfix
  · -- What the occurrence takes of the next one would be a border.
    obtain ⟨t, rfl⟩ := List.prefix_of_prefix_length_le (List.prefix_append _ _) hprefix hlt.le
    have hstart : t <+: piece ++ t := by
      rw [List.prefix_append_right_inj] at hprefix
      exact List.prefix_of_prefix_length_le hprefix (List.prefix_append _ _) (by simp)
    rcases hword t hstart (List.suffix_append _ _) with rfl | heq
    · exact h (by simp)
    · exact hpiece (List.self_eq_append_left.1 heq)

theorem splitWord_append_word (hne : word ≠ []) (hword : IsUnbordered word) {piece : List Char}
    (h : ¬word <:+: piece) (rest : List Char) :
    splitWord word (piece ++ (word ++ rest)) = piece :: splitWord word rest := by
  induction piece with
  | nil => exact splitWord_word_append hne rest
  | cons c piece ih =>
    have hlater : ¬word <:+: piece := fun hinfix => h (List.infix_cons_iff.2 (.inr hinfix))
    have hprefix := hword.not_prefix (List.cons_ne_nil _ _) h rest
    rw [List.cons_append] at hprefix ⊢
    rw [splitWord_cons hprefix, ih hlater, List.modifyHead_cons]

theorem splitWord_intercalate (hne : word ≠ []) (hword : IsUnbordered word)
    {pieces : List (List Char)} (h : ∀ piece ∈ pieces, ¬word <:+: piece) (hpieces : pieces ≠ []) :
    splitWord word (word.intercalate pieces) = pieces := by
  induction pieces with
  | nil => exact absurd rfl hpieces
  | cons piece pieces ih =>
    rw [List.forall_mem_cons] at h
    cases pieces with
    | nil => rw [List.intercalate_singleton, splitWord_of_not_infix h.1]
    | cons later pieces =>
      rw [List.intercalate_cons_cons, List.append_assoc, splitWord_append_word hne hword h.1,
        ih h.2 (List.cons_ne_nil _ _)]

/-- The pieces between the occurrences of a word are those without the word that make the text up,
if the word does not overlap with itself. -/
theorem splitWord_eq_iff (hne : word ≠ []) (hword : IsUnbordered word) {s : List Char}
    {pieces : List (List Char)} : splitWord word s = pieces ↔
      pieces ≠ [] ∧ (∀ piece ∈ pieces, ¬word <:+: piece) ∧ s = word.intercalate pieces := by
  constructor
  · rintro rfl
    exact ⟨splitWord_ne_nil _ _, not_infix_of_mem_splitWordFrom hne,
      (intercalate_splitWord hne s).symm⟩
  · rintro ⟨hpieces, h, rfl⟩
    exact splitWord_intercalate hne hword h hpieces

/-! ## Replacing a word -/

theorem replaceAll_word_append (hword : word ≠ []) (new s : List Char) :
    replaceAll word new (word ++ s) = new ++ replaceAll word new s := by
  rw [replaceAll, splitWord_word_append hword,
    List.intercalate_cons_of_ne_nil (splitWord_ne_nil _ _), List.nil_append]
  rfl

theorem replaceAll_cons {c : Char} {s : List Char} (h : ¬word <+: c :: s) (new : List Char) :
    replaceAll word new (c :: s) = c :: replaceAll word new s := by
  rw [replaceAll, splitWord_cons h, intercalate_modifyHead_cons _ _ (splitWord_ne_nil _ _)]
  rfl

end TokenInventory.Text
