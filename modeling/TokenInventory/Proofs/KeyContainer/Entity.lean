import TokenInventory.Proofs.KeyContainer.Escape
import TokenInventory.Proofs.Text.Pieces

/-!
# Entities replaced one kind after the other

A text may as well be escaped by five replacements of a character, one for each entity, and read by
five replacements of an entity (`escapeInTurn_eq`, `unescapeInTurn_eq`). The order matters for the
ampersand only: it is first to be escaped and last to be read, so that no replacement makes or
breaks what a later one looks for. That all entities are read at once is a matter of which ones are
read already (`unescapeOnly`).
-/

namespace TokenInventory.KeyContainer

open Text (replaceAll replaceAll_cons replaceAll_word_append)

/-- The kinds of entities. -/
inductive Entity
  | ampersand
  | less
  | greater
  | quote
  | apostrophe
  deriving DecidableEq

namespace Entity

/-- The character that an entity stands for. -/
def char : Entity → Char
  | ampersand => '&'
  | less => '<'
  | greater => '>'
  | quote => '"'
  | apostrophe => '\''

/-- What follows the ampersand of an entity. -/
def tail : Entity → List Char
  | ampersand => ['a', 'm', 'p', ';']
  | less => ['l', 't', ';']
  | greater => ['g', 't', ';']
  | quote => ['q', 'u', 'o', 't', ';']
  | apostrophe => ['a', 'p', 'o', 's', ';']

/-- An entity as it is written. -/
def text (e : Entity) : List Char :=
  '&' :: e.tail

theorem text_ne_nil (e : Entity) : e.text ≠ [] :=
  List.cons_ne_nil _ _

theorem escapeChar_char (e : Entity) : escapeChar e.char = e.text := by
  cases e <;> rfl

theorem exists_char_of_isSpecial {c : Char} (h : isSpecial c = true) :
    ∃ e : Entity, e.char = c := by
  rcases eq_of_isSpecial h with rfl | rfl | rfl | rfl | rfl
  exacts [⟨ampersand, rfl⟩, ⟨less, rfl⟩, ⟨greater, rfl⟩, ⟨quote, rfl⟩, ⟨apostrophe, rfl⟩]

theorem isSpecial_char (e : Entity) : isSpecial e.char = true := by
  cases e <;> rfl

theorem isSpecial_of_mem_tail (e : Entity) : ∀ c ∈ e.tail, isSpecial c = false := by
  have hall : (e.tail.all fun c => !isSpecial c) = true := by cases e <;> rfl
  simpa using hall

theorem char_ne_ampersand {e : Entity} (h : e ≠ ampersand) : e.char ≠ '&' := by
  cases e with
  | ampersand => exact absurd rfl h
  | less | greater | quote | apostrophe => decide

/-- A text begins with one entity at most. -/
theorem eq_of_prefix_text_append {e f : Entity} {s : List Char} (h : e.text <+: f.text ++ s) :
    e = f := by
  obtain ⟨t, ht⟩ := h
  cases e <;> cases f <;> simp_all [text, tail]

/-- Every text is made up of entities and of characters with which no entity begins. -/
@[elab_as_elim]
theorem induction_text {P : List Char → Prop} (nil : P []) (text : ∀ e s, P s → P (text e ++ s))
    (cons : ∀ c s, (∀ e, ¬Entity.text e <+: c :: s) → P s → P (c :: s)) (s : List Char) : P s := by
  induction hn : s.length using Nat.strongRecOn generalizing s with
  | ind n ih =>
    subst hn
    by_cases hentity : ∃ e : Entity, e.text <+: s
    · obtain ⟨e, t, rfl⟩ := hentity
      refine text e t (ih _ ?_ t rfl)
      rw [List.length_append]
      exact Nat.lt_add_of_pos_left (List.length_pos_of_ne_nil e.text_ne_nil)
    · push Not at hentity
      cases s with
      | nil => exact nil
      | cons c s => exact cons c s hentity (ih _ (by simp) s rfl)

end Entity

open Entity

/-! ## Reading one kind after the other -/

/-- How an entity stands in a text where only some kinds are read already. -/
def Entity.form (known : List Entity) (e : Entity) : List Char :=
  if e ∈ known then [e.char] else e.text

/-- A text in which only the entities of some kinds are read already. -/
def unescapeOnly (known : List Entity) : List Char → List Char
  | '&' :: 'a' :: 'm' :: 'p' :: ';' :: s => ampersand.form known ++ unescapeOnly known s
  | '&' :: 'l' :: 't' :: ';' :: s => less.form known ++ unescapeOnly known s
  | '&' :: 'g' :: 't' :: ';' :: s => greater.form known ++ unescapeOnly known s
  | '&' :: 'q' :: 'u' :: 'o' :: 't' :: ';' :: s => quote.form known ++ unescapeOnly known s
  | '&' :: 'a' :: 'p' :: 'o' :: 's' :: ';' :: s => apostrophe.form known ++ unescapeOnly known s
  | c :: s => c :: unescapeOnly known s
  | [] => []

variable {known : List Entity}

theorem unescapeOnly_text_append (known : List Entity) (e : Entity) (s : List Char) :
    unescapeOnly known (e.text ++ s) = e.form known ++ unescapeOnly known s := by
  cases e <;> rfl

theorem unescapeOnly_cons {c : Char} {s : List Char} (h : ∀ e : Entity, ¬e.text <+: c :: s) :
    unescapeOnly known (c :: s) = c :: unescapeOnly known s := by
  have hne (e : Entity) (t : List Char) : c :: s ≠ e.text ++ t := fun heq => h e ⟨t, heq.symm⟩
  rw [unescapeOnly.eq_def]
  split
  · next heq => exact absurd heq (hne ampersand _)
  · next heq => exact absurd heq (hne less _)
  · next heq => exact absurd heq (hne greater _)
  · next heq => exact absurd heq (hne quote _)
  · next heq => exact absurd heq (hne apostrophe _)
  · next heq =>
    obtain ⟨rfl, rfl⟩ := List.cons.inj heq
    rfl
  · next heq => cases heq

theorem unescapeOnly_nil (s : List Char) : unescapeOnly [] s = s := by
  induction s using induction_text with
  | nil => rfl
  | text e s ih => rw [unescapeOnly_text_append, ih, form, if_neg (List.not_mem_nil)]
  | cons c s h ih => rw [unescapeOnly_cons h, ih]

/-- When all kinds are read, the text is read. -/
theorem unescapeOnly_eq_unescape (hall : ∀ e, e ∈ known) (s : List Char) :
    unescapeOnly known s = unescape s := by
  have hform (e : Entity) : e.form known = [e.char] := if_pos (hall e)
  fun_induction unescape s with
  | case1 s ih | case2 s ih | case3 s ih | case4 s ih | case5 s ih =>
    rw [unescapeOnly, hform, ih]
    rfl
  | case6 c s _ _ _ _ _ ih => rw [unescapeOnly, ih] <;> assumption
  | case7 => rfl

/-- Reading entities does not bring about what follows the ampersand of one. -/
theorem prefix_of_prefix_unescapeOnly {w s : List Char} (hw : ∀ c ∈ w, isSpecial c = false)
    (h : w <+: unescapeOnly known s) : w <+: s := by
  induction s using induction_text generalizing w with
  | nil => exact h
  | text e s ih =>
    cases w with
    | nil => exact List.nil_prefix
    | cons d w =>
      -- the entity or its character comes first, and both begin with a special one
      have hspecial : isSpecial d = true := by
        rw [unescapeOnly_text_append, form] at h
        split at h
        · rw [(List.cons_prefix_cons.1 h).1]
          exact isSpecial_char e
        · rw [(List.cons_prefix_cons.1 h).1]
          rfl
      rw [hw d List.mem_cons_self] at hspecial
      cases hspecial
  | cons c s hc ih =>
    cases w with
    | nil => exact List.nil_prefix
    | cons d w =>
      rw [unescapeOnly_cons hc, List.cons_prefix_cons] at h
      exact List.cons_prefix_cons.2 ⟨h.1, ih (fun c hc => hw c (.tail _ hc)) h.2⟩

theorem replaceAll_text_append {front : List Char} (hfront : '&' ∉ front) (e : Entity)
    (new s : List Char) :
    replaceAll e.text new (front ++ s) = front ++ replaceAll e.text new s := by
  induction front with
  | nil => rfl
  | cons c front ih =>
    rw [List.mem_cons, not_or] at hfront
    have hprefix : ¬e.text <+: c :: (front ++ s) := fun h =>
      hfront.1 (List.cons_prefix_cons.1 h).1
    rw [List.cons_append, replaceAll_cons hprefix, ih hfront.2, List.cons_append]

/-- A replacement leaves other entities alone, whether they are read already or not. -/
theorem replaceAll_form_append {e f : Entity} (hne : e ≠ f) (hknown : ampersand ∉ known)
    (new s : List Char) :
    replaceAll e.text new (f.form known ++ s) = f.form known ++ replaceAll e.text new s := by
  rw [form]
  split
  · next hf =>
    have hchar : f.char ≠ '&' := char_ne_ampersand fun heq => hknown (heq ▸ hf)
    exact replaceAll_text_append (by simpa using hchar.symm) e new s
  · have hprefix : ¬e.text <+: f.text ++ s := fun h => hne (eq_of_prefix_text_append h)
    have htail : '&' ∉ f.tail := fun h => by
      have := isSpecial_of_mem_tail f _ h
      cases this
    exact (replaceAll_cons hprefix new).trans
      (congrArg _ (replaceAll_text_append htail e new s))

/-- To read one more kind is to replace its entity, as long as the ampersand is not read. -/
theorem replaceAll_unescapeOnly {e : Entity} (he : e ∉ known) (hknown : ampersand ∉ known)
    (s : List Char) :
    replaceAll e.text [e.char] (unescapeOnly known s) = unescapeOnly (e :: known) s := by
  induction s using induction_text with
  | nil => rfl
  | text f s ih =>
    rw [unescapeOnly_text_append, unescapeOnly_text_append]
    by_cases hne : e = f
    · subst hne
      rw [form, if_neg he, form, if_pos List.mem_cons_self, replaceAll_word_append e.text_ne_nil,
        ih]
    · have hform : f.form (e :: known) = f.form known := by
        simp only [form, List.mem_cons, Ne.symm hne, false_or]
      rw [replaceAll_form_append hne hknown, ih, hform]
  | cons c s hc ih =>
    rw [unescapeOnly_cons hc, unescapeOnly_cons hc, replaceAll_cons, ih]
    intro h
    obtain ⟨rfl, htail⟩ := List.cons_prefix_cons.1 h
    exact hc e (List.cons_prefix_cons.2
      ⟨rfl, prefix_of_prefix_unescapeOnly (isSpecial_of_mem_tail e) htail⟩)

/-- A text with the entities replaced, one kind after the other. -/
def unescapeInTurn (s : List Char) : List Char :=
  [less, greater, quote, apostrophe, ampersand].foldl
    (fun s e => replaceAll e.text [e.char] s) s

theorem unescapeInTurn_eq (s : List Char) : unescapeInTurn s = unescape s := by
  have hall : ∀ e, e ∈ [ampersand, apostrophe, quote, greater, less] := by
    intro e
    cases e <;> decide
  rw [unescapeInTurn, ← unescapeOnly_eq_unescape hall]
  simp only [List.foldl_cons, List.foldl_nil]
  rw [← replaceAll_unescapeOnly (by decide) (by decide), ← replaceAll_unescapeOnly (by decide)
    (by decide), ← replaceAll_unescapeOnly (by decide) (by decide), ← replaceAll_unescapeOnly
    (by decide) (by decide), ← replaceAll_unescapeOnly (by decide) (by decide), unescapeOnly_nil]

/-! ## Escaping one kind after the other -/

theorem replaceAll_singleton (c : Char) (new s : List Char) :
    replaceAll [c] new s = s.flatMap fun d => if d = c then new else [d] := by
  induction s with
  | nil => rfl
  | cons d s ih =>
    rw [List.flatMap_cons, ← ih]
    split
    · next h =>
      subst h
      exact replaceAll_word_append (List.cons_ne_nil _ _) new s
    · next h => exact replaceAll_cons (fun hp => h (List.cons_prefix_cons.1 hp).1.symm) new

/-- A text with the special characters replaced, one kind after the other. -/
def escapeInTurn (s : List Char) : List Char :=
  [ampersand, less, greater, quote, apostrophe].foldl
    (fun s e => replaceAll [e.char] e.text s) s

theorem escapeInTurn_append (s t : List Char) :
    escapeInTurn (s ++ t) = escapeInTurn s ++ escapeInTurn t := by
  simp only [escapeInTurn, List.foldl_cons, List.foldl_nil, replaceAll_singleton,
    List.flatMap_append]

theorem escapeInTurn_singleton (c : Char) : escapeInTurn [c] = escapeChar c := by
  cases hc : isSpecial c with
  | true =>
    obtain ⟨e, rfl⟩ := exists_char_of_isSpecial hc
    cases e <;> decide
  | false =>
    have hne (e : Entity) : c ≠ e.char := by
      rintro rfl
      rw [isSpecial_char] at hc
      cases hc
    simp only [escapeChar_of_not_isSpecial hc, escapeInTurn, List.foldl_cons, List.foldl_nil,
      replaceAll_singleton, List.flatMap_singleton, if_neg (hne _)]

theorem escapeInTurn_eq (s : List Char) : escapeInTurn s = escape s := by
  induction s with
  | nil => rfl
  | cons c s ih =>
    rw [← List.singleton_append, escapeInTurn_append, escapeInTurn_singleton, ih]
    rfl

/-! ## Escaped texts -/

theorem ne_of_mem_escape {s : List Char} :
    ∀ c ∈ escape s, c ≠ '<' ∧ c ≠ '>' ∧ c ≠ '"' ∧ c ≠ '\'' := by
  refine forall_mem_escape (fun c hc d hd => ?_) fun c _ hc => ?_
  · have hentity := isEntityChar_of_mem hc d hd
    refine ⟨?_, ?_, ?_, ?_⟩ <;> rintro rfl <;> cases hentity
  · refine ⟨?_, ?_, ?_, ?_⟩ <;> rintro rfl <;> cases hc

theorem ampersand_not_mem_tail_escapeChar (c : Char) : '&' ∉ (escapeChar c).tail := by
  cases hc : isSpecial c with
  | true =>
    obtain ⟨e, rfl⟩ := exists_char_of_isSpecial hc
    rw [escapeChar_char]
    intro h
    cases isSpecial_of_mem_tail e _ h
  | false =>
    rw [escapeChar_of_not_isSpecial hc]
    exact List.not_mem_nil

/-- Every ampersand of an escaped text begins an entity. -/
theorem exists_entity_of_escape_eq {s before after : List Char}
    (h : escape s = before ++ '&' :: after) : ∃ e : Entity, e.text <+: '&' :: after := by
  induction s generalizing before with
  | nil => simp [escape] at h
  | cons c s ih =>
    rw [escape, List.flatMap_cons, ← escape] at h
    cases before with
    | nil =>
      cases hc : isSpecial c with
      | true =>
        obtain ⟨e, rfl⟩ := exists_char_of_isSpecial hc
        rw [escapeChar_char] at h
        exact ⟨e, _, h⟩
      | false =>
        rw [escapeChar_of_not_isSpecial hc] at h
        obtain ⟨rfl, -⟩ := List.cons.inj h
        cases hc
    | cons d before =>
      have htail := ampersand_not_mem_tail_escapeChar c
      obtain ⟨first, rest, heq, -⟩ := exists_cons_escapeChar c
      rw [heq, List.tail_cons] at htail
      rw [heq] at h
      -- the ampersand stands in what the rest of the text is written as
      rcases List.append_eq_append_iff.1 (List.cons.inj h).2 with
        ⟨before', -, hs⟩ | ⟨_ | ⟨d', rest'⟩, hrest, hs⟩
      · exact ih hs
      · exact ih (show escape s = [] ++ '&' :: after from hs.symm)
      · obtain ⟨rfl, -⟩ := List.cons.inj hs
        exact absurd (hrest ▸ by simp) htail

/-- Reading undoes escaping, and an escaped text has no special characters but the ampersands of its
entities. Both can be done by five replacements one after the other. -/
theorem unescape_escape_inTurn (s : List Char) :
    unescapeInTurn (escapeInTurn s) = s ∧ unescape (escape s) = s ∧
    (∀ c ∈ escape s, c ≠ '<' ∧ c ≠ '>' ∧ c ≠ '"' ∧ c ≠ '\'') ∧
    (∀ before after, escape s = before ++ '&' :: after →
      ∃ e : Entity, e.text <+: '&' :: after) ∧
    escapeInTurn s = escape s ∧ unescapeInTurn s = unescape s := by
  refine ⟨?_, unescape_escape s, ne_of_mem_escape, fun _ _ => exists_entity_of_escape_eq,
    escapeInTurn_eq s, unescapeInTurn_eq s⟩
  rw [unescapeInTurn_eq, escapeInTurn_eq, unescape_escape]

end TokenInventory.KeyContainer
