import TokenInventory.Text.Blank

/-!
# Texts without blanks at their ends

A text stays as it is when blanks are taken off its ends exactly if it neither begins nor ends with
one (`trim_eq_self_iff`). What is left of any text has no blanks at its ends, and the text is this
with blanks around it (`isPadded_iff`).
-/

namespace TokenInventory.Text

theorem trimStart_eq_self_iff {s : List Char} :
    trimStart s = s ↔ ∀ c ∈ s.head?, isBlank c = false := by
  cases s with
  | nil => simp [trimStart]
  | cons c s =>
    cases hc : isBlank c with
    | false => simp [trimStart, hc]
    | true =>
      have hlt : (trimStart (c :: s)).length ≤ s.length := by
        rw [trimStart, List.dropWhile_cons_of_pos hc]
        exact (List.dropWhile_sublist _).length_le
      refine iff_of_false (fun heq => ?_) (by simp [hc])
      rw [heq, List.length_cons] at hlt
      omega

theorem trimEnd_eq_self_iff {s : List Char} :
    trimEnd s = s ↔ ∀ c ∈ s.getLast?, isBlank c = false := by
  rw [trimEnd, List.reverse_eq_iff, trimStart_eq_self_iff, List.head?_reverse]

/-- A text is blanks and what is left when they are taken off its start. -/
theorem exists_append_trimStart (s : List Char) :
    ∃ blank, s = blank ++ trimStart s ∧ ∀ c ∈ blank, isBlank c = true :=
  ⟨s.takeWhile isBlank, List.takeWhile_append_dropWhile.symm,
    List.all_eq_true.1 List.all_takeWhile⟩

/-- A text is trimmed exactly if it neither begins nor ends with a blank. -/
theorem trim_eq_self_iff {s : List Char} : trim s = s ↔
    (∀ c ∈ s.head?, isBlank c = false) ∧ ∀ c ∈ s.getLast?, isBlank c = false := by
  rw [← trimStart_eq_self_iff, ← trimEnd_eq_self_iff]
  constructor
  · intro h
    have hstart : trimStart s = s := by
      have hle : (trimEnd (trimStart s)).length ≤ (trimStart s).length := by
        rw [trimEnd, List.length_reverse, ← (trimStart s).length_reverse]
        exact (List.dropWhile_sublist _).length_le
      rw [← trim, h] at hle
      exact (List.dropWhile_sublist _).eq_of_length_le hle
    exact ⟨hstart, by rwa [trim, hstart] at h⟩
  · rintro ⟨hstart, hend⟩
    rw [trim, hstart, hend]

theorem trim_of_forall_not_blank {s : List Char} (h : ∀ c ∈ s, isBlank c = false) : trim s = s :=
  trim_eq_self_iff.2
    ⟨fun c hc => h c (List.mem_of_mem_head? hc), fun c hc => h c (List.mem_of_getLast? hc)⟩

/-- Letters and digits are not blank. -/
theorem isBlank_of_isAlphanum {c : Char} (h : c.isAlphanum = true) : isBlank c = false := by
  have hrange : 48 ≤ c.toNat ∧ c.toNat ≤ 122 := by
    rcases Bool.or_eq_true_iff.1 h with halpha | hdigit
    · rcases Bool.or_eq_true_iff.1 halpha with hupper | hlower
      · have hcodes : 65 ≤ c.toNat ∧ c.toNat ≤ 90 := of_decide_eq_true hupper
        omega
      · obtain ⟨hle, hge⟩ := Bool.and_eq_true_iff.1 hlower
        have hcodes : 97 ≤ c.toNat ∧ c.toNat ≤ 122 := ⟨of_decide_eq_true hle, of_decide_eq_true hge⟩
        omega
    · have hcodes : 48 ≤ c.toNat ∧ c.toNat ≤ 57 := Char.isDigit_iff_toNat.1 hdigit
      omega
  simp only [isBlank, Bool.or_eq_false_iff, Bool.and_eq_false_iff, decide_eq_false_iff_not,
    beq_eq_false_iff_ne]
  omega

/-- A character of a kind that no character of a list is of is none of the list. -/
theorem not_mem_of_all {list : List Char} {p : Char → Bool} (hlist : list.all (!p ·) = true)
    {c : Char} (h : p c = true) : c ∉ list := by
  intro hc
  have hnot := List.all_eq_true.1 hlist c hc
  rw [h] at hnot
  cases hnot

theorem trimStart_cons_of_isDigit {c : Char} (h : c.isDigit = true) (s : List Char) :
    trimStart (c :: s) = c :: s :=
  List.dropWhile_cons_of_neg (by simp [isBlank_of_isAlphanum, Char.isAlphanum, h])

/-- Blanks around a trimmed text are taken off. -/
theorem trim_surrounded {before s after : List Char} (hbefore : ∀ c ∈ before, isBlank c = true)
    (hafter : ∀ c ∈ after, isBlank c = true) (hs : trim s = s) :
    trim (before ++ (s ++ after)) = s := by
  rw [blank_append_trim _ hbefore, trim_append_blank _ hafter, hs]

/-- Whether a text is `core` with blanks around it. -/
def IsPadded (s core : List Char) : Prop :=
  ∃ before after, (∀ c ∈ before, isBlank c = true) ∧ (∀ c ∈ after, isBlank c = true) ∧
    s = before ++ (core ++ after)

theorem not_mem_of_blank {s : List Char} (h : ∀ c ∈ s, isBlank c = true) {c : Char}
    (hc : isBlank c = false) : c ∉ s := fun hmem => by
  cases (h c hmem).symm.trans hc

theorem IsPadded.mem_iff {s core : List Char} (h : IsPadded s core) {c : Char}
    (hc : isBlank c = false) : c ∈ s ↔ c ∈ core := by
  obtain ⟨before, after, hbefore, hafter, rfl⟩ := h
  simp [not_mem_of_blank hbefore hc, not_mem_of_blank hafter hc]

theorem isPadded_trim (s : List Char) : IsPadded s (trim s) := by
  obtain ⟨before, hbefore, hblank⟩ := exists_append_trimStart s
  obtain ⟨after, hafter, hblank'⟩ := exists_append_trimStart (trimStart s).reverse
  refine ⟨before, after.reverse, hblank, fun c hc => hblank' c (List.mem_reverse.1 hc), ?_⟩
  rw [trim, trimEnd, ← List.reverse_append, ← hafter, List.reverse_reverse, ← hbefore]

theorem trim_trim (s : List Char) : trim (trim s) = trim s := by
  obtain ⟨before, after, hbefore, hafter, heq⟩ := isPadded_trim s
  calc trim (trim s)
      = trim (before ++ (trim s ++ after)) := by
        rw [blank_append_trim _ hbefore, trim_append_blank _ hafter]
    _ = trim s := by rw [← heq]

/-- A text is a trimmed text with blanks around it if and only if that is what trimming leaves. -/
theorem isPadded_iff {s core : List Char} (hcore : trim core = core) :
    IsPadded s core ↔ trim s = core := by
  constructor
  · rintro ⟨before, after, hbefore, hafter, rfl⟩
    exact trim_surrounded hbefore hafter hcore
  · rintro rfl
    exact isPadded_trim s

/-- Nothing is left of blanks, and of nothing else. -/
theorem trim_eq_nil_iff {s : List Char} : trim s = [] ↔ ∀ c ∈ s, isBlank c = true := by
  rw [← isPadded_iff rfl]
  constructor
  · rintro ⟨before, after, hbefore, hafter, rfl⟩
    exact List.forall_mem_append.2 ⟨hbefore, List.forall_mem_append.2 ⟨nofun, hafter⟩⟩
  · intro h
    exact ⟨s, [], h, nofun, (List.append_nil s).symm⟩

end TokenInventory.Text
