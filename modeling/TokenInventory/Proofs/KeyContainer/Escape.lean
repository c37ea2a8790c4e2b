import Mathlib.Data.List.Induction
import TokenInventory.KeyContainer.Escape
import TokenInventory.Proofs.Text.Blank

/-!
# Escaped texts

Escaping is undone by reading (`unescape_escape`). An escaped text holds none of the characters that
end a tag, a text or an attribute (`not_special_of_mem_escape`), and what else a text holds or lacks
carries over to its escaped form.
-/

namespace TokenInventory.KeyContainer

/-- The characters that are written with an entity. -/
def isSpecial (c : Char) : Bool :=
  c = '&' || c = '<' || c = '>' || c = '"' || c = '\''

theorem escapeChar_of_not_isSpecial {c : Char} (h : isSpecial c = false) : escapeChar c = [c] := by
  simp only [isSpecial, Bool.or_eq_false_iff, decide_eq_false_iff_not] at h
  unfold escapeChar
  split <;> simp_all

theorem eq_of_isSpecial {c : Char} (h : isSpecial c = true) :
    c = '&' ∨ c = '<' ∨ c = '>' ∨ c = '"' ∨ c = '\'' := by
  simpa [isSpecial, or_assoc] using h

theorem unescape_cons_of_ne {c : Char} (h : c ≠ '&') (s : List Char) :
    unescape (c :: s) = c :: unescape s := by
  rw [unescape] <;> simp [h]

/-- Reading undoes escaping. -/
theorem unescape_escape (s : List Char) : unescape (escape s) = s := by
  induction s with
  | nil => rfl
  | cons c s ih =>
    rw [escape, List.flatMap_cons, ← escape]
    cases hc : isSpecial c with
    | false =>
      have hne : c ≠ '&' := by rintro rfl; cases hc
      rw [escapeChar_of_not_isSpecial hc, List.singleton_append, unescape_cons_of_ne hne, ih]
    | true =>
      rcases eq_of_isSpecial hc with rfl | rfl | rfl | rfl | rfl <;>
        exact congrArg (List.cons _) ih

/-- A text without special characters stands for itself. -/
theorem escape_eq_self {s : List Char} (h : ∀ c ∈ s, isSpecial c = false) : escape s = s := by
  induction s with
  | nil => rfl
  | cons c s ih =>
    rw [List.forall_mem_cons] at h
    rw [escape, List.flatMap_cons, ← escape, escapeChar_of_not_isSpecial h.1, ih h.2]
    rfl

/-- What is in no entity and not in a text is not in the escaped text. -/
theorem forall_mem_escape {p : Char → Prop} {s : List Char}
    (hentity : ∀ c, isSpecial c = true → ∀ d ∈ escapeChar c, p d)
    (hs : ∀ c ∈ s, isSpecial c = false → p c) : ∀ c ∈ escape s, p c := by
  intro d hd
  obtain ⟨c, hc, hd⟩ := List.mem_flatMap.1 hd
  cases hspecial : isSpecial c with
  | false =>
    rw [escapeChar_of_not_isSpecial hspecial, List.mem_singleton] at hd
    exact hd ▸ hs c hc hspecial
  | true => exact hentity c hspecial d hd

/-- Entities are letters between an ampersand and a semicolon. -/
def isEntityChar (c : Char) : Bool :=
  c.isAlpha || c = '&' || c = ';'

theorem isEntityChar_of_mem {c : Char} (hc : isSpecial c = true) :
    ∀ d ∈ escapeChar c, isEntityChar d = true := by
  have hall : (escapeChar c).all isEntityChar = true := by
    rcases eq_of_isSpecial hc with rfl | rfl | rfl | rfl | rfl <;> rfl
  exact List.all_eq_true.1 hall

theorem not_special_of_mem_escape {s : List Char} :
    ∀ c ∈ escape s, c ≠ '<' ∧ c ≠ '>' ∧ c ≠ '"' := by
  refine forall_mem_escape (fun c hc d hd => ?_) fun c _ hc => ?_
  · have hentity := isEntityChar_of_mem hc d hd
    refine ⟨?_, ?_, ?_⟩ <;> rintro rfl <;> cases hentity
  · refine ⟨?_, ?_, ?_⟩ <;> rintro rfl <;> cases hc

theorem exists_cons_escapeChar (c : Char) : ∃ d s, escapeChar c = d :: s ∧
    (Text.isBlank c = false → Text.isBlank d = false) := by
  cases hc : isSpecial c with
  | false => exact ⟨c, [], escapeChar_of_not_isSpecial hc, id⟩
  | true => rcases eq_of_isSpecial hc with rfl | rfl | rfl | rfl | rfl <;> exact ⟨'&', _, rfl, id⟩

/-- A character is written as itself, or an entity that ends in a semicolon stands for it. -/
theorem escapeChar_cases (c : Char) : isSpecial c = false ∧ escapeChar c = [c] ∨
    isSpecial c = true ∧ ∃ s, escapeChar c = s ++ [';'] := by
  cases hc : isSpecial c with
  | false => exact .inl ⟨rfl, escapeChar_of_not_isSpecial hc⟩
  | true =>
    refine .inr ⟨rfl, ?_⟩
    rcases eq_of_isSpecial hc with rfl | rfl | rfl | rfl | rfl
    exacts [⟨"&amp".toList, rfl⟩, ⟨"&lt".toList, rfl⟩, ⟨"&gt".toList, rfl⟩, ⟨"&quot".toList, rfl⟩,
      ⟨"&apos".toList, rfl⟩]

theorem escape_concat (s : List Char) (c : Char) :
    escape (s ++ [c]) = escape s ++ escapeChar c := by
  rw [escape, List.flatMap_append, List.flatMap_singleton, ← escape]

/-- Where an escaped text ends in no semicolon, the text itself ends in the same way. -/
theorem exists_of_escape_eq_concat {s x : List Char} {c : Char} (h : escape s = x ++ [c])
    (hc : c ≠ ';') : ∃ s', s = s' ++ [c] ∧ escape s' = x := by
  rcases List.eq_nil_or_concat s with rfl | ⟨s, d, rfl⟩
  · have := congrArg List.length h
    simp [escape] at this
  · rw [List.concat_eq_append, escape_concat] at h
    rcases escapeChar_cases d with ⟨-, hd⟩ | ⟨-, t, hd⟩
    · rw [hd] at h
      obtain ⟨hx, hlast⟩ := List.append_inj' h rfl
      exact ⟨s, by rw [List.concat_eq_append, hlast], hx⟩
    · rw [hd, ← List.append_assoc] at h
      exact absurd (List.singleton_inj.1 (List.append_inj' h rfl).2).symm hc

theorem exists_of_escape_eq_append {s x t : List Char} (h : escape s = x ++ t) (ht : ';' ∉ t) :
    ∃ s', s = s' ++ t ∧ escape s' = x := by
  induction t using List.reverseRecOn generalizing s with
  | nil => exact ⟨s, (List.append_nil s).symm, by rwa [List.append_nil] at h⟩
  | append_singleton t c ih =>
    rw [List.mem_append, not_or, List.mem_singleton] at ht
    rw [← List.append_assoc] at h
    obtain ⟨s, rfl, hs⟩ := exists_of_escape_eq_concat h (Ne.symm ht.2)
    obtain ⟨s, rfl, hx⟩ := ih hs ht.1
    exact ⟨s, List.append_assoc .., hx⟩

/-- A text without blanks at its ends has none after escaping. -/
theorem trim_escape {s : List Char} (h : Text.trim s = s) : Text.trim (escape s) = escape s := by
  obtain ⟨hhead, hlast⟩ := Text.trim_eq_self_iff.1 h
  refine Text.trim_eq_self_iff.2 ⟨?_, ?_⟩
  · cases s with
    | nil => exact hhead
    | cons c s =>
      obtain ⟨d, t, hd, hblank⟩ := exists_cons_escapeChar c
      rw [escape, List.flatMap_cons, hd]
      intro b hb
      cases hb
      exact hblank (hhead c rfl)
  · rcases List.eq_nil_or_concat s with rfl | ⟨s, c, rfl⟩
    · exact hlast
    · rw [List.concat_eq_append, List.getLast?_concat] at hlast
      rw [List.concat_eq_append, escape_concat]
      rcases escapeChar_cases c with ⟨-, hc⟩ | ⟨-, t, hc⟩
      · rw [hc, List.getLast?_concat]
        exact hlast
      · rw [hc, ← List.append_assoc, List.getLast?_concat]
        intro b hb
        cases hb
        rfl

end TokenInventory.KeyContainer
