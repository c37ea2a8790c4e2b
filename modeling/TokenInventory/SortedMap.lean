/-!
# Sorted maps

A finite map from texts to values, kept as a list of entries in strictly ascending order of their
keys. The order of texts is by code point, which is also the order of their UTF-8 bytes. Two maps
with the same look-ups are the same map, so equality of maps is equality of contents.

`get?_insert`, `get?_erase` and `ext_get?` describe the operations through look-up.
-/

namespace TokenInventory

/-- A map whose entries are listed by ascending key. -/
structure SortedMap (α : Type) where
  entries : List (String × α)
  sorted : entries.Pairwise fun a b => a.1 < b.1

namespace SortedMap

variable {α β : Type}

/-- The value stored under a key in a list of entries. -/
def lookup (key : String) : List (String × α) → Option α
  | [] => none
  | (k, v) :: rest => if k = key then some v else lookup key rest

/-- Puts an entry at its place, in place of one with the same key. -/
def insertEntry (key : String) (value : α) : List (String × α) → List (String × α)
  | [] => [(key, value)]
  | (k, v) :: rest =>
    if key < k then (key, value) :: (k, v) :: rest
    else if k = key then (key, value) :: rest
    else (k, v) :: insertEntry key value rest

theorem mem_insertEntry {key : String} {value : α} {e : String × α} {l : List (String × α)}
    (h : e ∈ insertEntry key value l) : e = (key, value) ∨ e ∈ l := by
  induction l with
  | nil => simpa [insertEntry] using h
  | cons hd tl ih =>
    obtain ⟨k, v⟩ := hd
    rw [insertEntry] at h
    split at h
    · simpa using h
    · split at h
      · rcases List.mem_cons.1 h with h | h
        · exact .inl h
        · exact .inr (List.mem_cons_of_mem _ h)
      · rcases List.mem_cons.1 h with h | h
        · exact .inr (h ▸ List.mem_cons_self)
        · exact (ih h).imp id (List.mem_cons_of_mem _)

theorem lt_of_not_lt_of_ne {a b : String} (h : ¬a < b) (hne : b ≠ a) : b < a := by
  rcases Classical.em (b < a) with h' | h'
  · exact h'
  · exact absurd (String.le_antisymm (String.not_lt.1 h) (String.not_lt.1 h')) hne

theorem sorted_insertEntry (key : String) (value : α) {l : List (String × α)}
    (h : l.Pairwise fun a b => a.1 < b.1) :
    (insertEntry key value l).Pairwise fun a b => a.1 < b.1 := by
  induction l with
  | nil => simp [insertEntry]
  | cons hd tl ih =>
    obtain ⟨k, v⟩ := hd
    have hhd := (List.pairwise_cons.1 h).1
    rw [insertEntry]
    split
    · next hlt =>
      refine List.Pairwise.cons (fun e he => ?_) h
      rcases List.mem_cons.1 he with rfl | he
      · exact hlt
      · exact String.lt_trans hlt (hhd e he)
    · next hlt =>
      split
      · next heq =>
        subst heq
        exact List.Pairwise.cons (fun e he => hhd e he) h.of_cons
      · next hne =>
        refine List.Pairwise.cons (fun e he => ?_) (ih h.of_cons)
        rcases mem_insertEntry he with rfl | he
        · exact lt_of_not_lt_of_ne hlt hne
        · exact hhd e he

/-- The map without entries. -/
def empty : SortedMap α :=
  ⟨[], .nil⟩

instance : Inhabited (SortedMap α) :=
  ⟨empty⟩

instance [DecidableEq α] : DecidableEq (SortedMap α) := fun a b =>
  if h : a.entries = b.entries then
    .isTrue (by cases a; cases b; simpa using h)
  else .isFalse fun e => h (e ▸ rfl)

/-- The value stored under a key. -/
def get? (m : SortedMap α) (key : String) : Option α :=
  lookup key m.entries

/-- Whether a key is present. -/
def contains (m : SortedMap α) (key : String) : Bool :=
  (m.get? key).isSome

/-- The map with a value put under a key, in place of an earlier one. -/
def insert (m : SortedMap α) (key : String) (value : α) : SortedMap α :=
  ⟨insertEntry key value m.entries, sorted_insertEntry key value m.sorted⟩

/-- The map without a key. -/
def erase (m : SortedMap α) (key : String) : SortedMap α :=
  ⟨m.entries.filter fun e => e.1 != key, m.sorted.filter _⟩

/-- The map of the given entries; of entries with one key the last counts. -/
def ofList (l : List (String × α)) : SortedMap α :=
  l.foldl (fun m e => m.insert e.1 e.2) empty

/-- The keys, in ascending order. -/
def keys (m : SortedMap α) : List String :=
  m.entries.map Prod.fst

/-- The values, in ascending order of their keys. -/
def values (m : SortedMap α) : List α :=
  m.entries.map Prod.snd

/-- The number of entries. -/
def size (m : SortedMap α) : Nat :=
  m.entries.length

/-- Whether there is no entry. -/
def isEmpty (m : SortedMap α) : Bool :=
  m.entries.isEmpty

/-- The values whose keys come after `key`; all values when no key is given. -/
def valuesAfter (m : SortedMap α) (key : Option String) : List α :=
  match key with
  | none => m.values
  | some key => (m.entries.filter fun e => decide (key < e.1)).map Prod.snd

theorem lookup_insertEntry (key key' : String) (value : α) (l : List (String × α)) :
    lookup key' (insertEntry key value l) = if key = key' then some value else lookup key' l := by
  induction l with
  | nil => simp [insertEntry, lookup]
  | cons hd tl ih =>
    obtain ⟨k, v⟩ := hd
    rw [insertEntry]
    split
    · simp [lookup]
    · split
      · next heq =>
        subst heq
        by_cases h : k = key' <;> simp [lookup, h]
      · next hne =>
        by_cases h : k = key'
        · subst h
          simp [lookup, Ne.symm hne]
        · simp [lookup, h, ih]

@[simp]
theorem get?_empty (key : String) : (empty : SortedMap α).get? key = none :=
  rfl

theorem get?_insert (m : SortedMap α) (key key' : String) (value : α) :
    (m.insert key value).get? key' = if key = key' then some value else m.get? key' :=
  lookup_insertEntry key key' value m.entries

theorem lookup_filter_ne (key key' : String) (l : List (String × α)) :
    lookup key' (l.filter fun e => e.1 != key) = if key = key' then none else lookup key' l := by
  induction l with
  | nil => simp [lookup]
  | cons hd tl ih =>
    obtain ⟨k, v⟩ := hd
    by_cases hk : k = key
    · subst hk
      rw [List.filter_cons_of_neg (by simp), ih]
      by_cases h : k = key' <;> simp [lookup, h]
    · rw [List.filter_cons_of_pos (by simp [hk]), lookup, lookup, ih]
      by_cases h : k = key'
      · subst h
        simp [Ne.symm hk]
      · simp [h]

theorem get?_erase (m : SortedMap α) (key key' : String) :
    (m.erase key).get? key' = if key = key' then none else m.get? key' :=
  lookup_filter_ne key key' m.entries

theorem lookup_eq_some_iff {key : String} {value : α} {l : List (String × α)}
    (h : l.Pairwise fun a b => a.1 < b.1) :
    lookup key l = some value ↔ (key, value) ∈ l := by
  induction l with
  | nil => simp [lookup]
  | cons hd tl ih =>
    obtain ⟨k, v⟩ := hd
    have hhd := (List.pairwise_cons.1 h).1
    by_cases hk : k = key
    · subst hk
      simp only [lookup, if_true, Option.some.injEq, List.mem_cons, Prod.mk.injEq, true_and]
      refine ⟨fun e => .inl e.symm, ?_⟩
      rintro (e | e)
      · exact e.symm
      · exact absurd (hhd _ e) (String.lt_irrefl _)
    · simp [lookup, hk, ih h.of_cons, Ne.symm hk]

/-- A value is found under a key exactly if that entry is listed. -/
theorem get?_eq_some_iff (m : SortedMap α) {key : String} {value : α} :
    m.get? key = some value ↔ (key, value) ∈ m.entries :=
  lookup_eq_some_iff m.sorted

/-- Maps with the same look-ups are equal. -/
theorem ext_get? {a b : SortedMap α} (h : ∀ key, a.get? key = b.get? key) : a = b := by
  have mem : ∀ e : String × α, e ∈ a.entries ↔ e ∈ b.entries := fun e => by
    rw [← get?_eq_some_iff a, ← get?_eq_some_iff b, h]
  obtain ⟨la, ha⟩ := a
  obtain ⟨lb, hb⟩ := b
  suffices la = lb by subst this; rfl
  simp only at mem
  clear h
  induction la generalizing lb with
  | nil =>
    cases lb with
    | nil => rfl
    | cons e _ => exact absurd ((mem e).2 List.mem_cons_self) (by simp)
  | cons ea ta ih =>
    cases lb with
    | nil => exact absurd ((mem ea).1 List.mem_cons_self) (by simp)
    | cons eb tb =>
      have hea := (List.pairwise_cons.1 ha).1
      have heb := (List.pairwise_cons.1 hb).1
      have hhead : ea = eb := by
        rcases List.mem_cons.1 ((mem ea).1 List.mem_cons_self) with h | h
        · exact h
        · rcases List.mem_cons.1 ((mem eb).2 List.mem_cons_self) with h' | h'
          · exact h'.symm
          · exact absurd (hea _ h') (String.lt_asymm (heb _ h))
      subst hhead
      refine congrArg (ea :: ·) (ih ha.of_cons tb hb.of_cons fun e => ?_)
      constructor
      · intro h
        rcases List.mem_cons.1 ((mem e).1 (List.mem_cons_of_mem _ h)) with rfl | h'
        · exact absurd (hea _ h) (String.lt_irrefl _)
        · exact h'
      · intro h
        rcases List.mem_cons.1 ((mem e).2 (List.mem_cons_of_mem _ h)) with rfl | h'
        · exact absurd (heb _ h) (String.lt_irrefl _)
        · exact h'

end SortedMap

/-- A finite set of texts. -/
abbrev SortedSet : Type :=
  SortedMap Unit

namespace SortedSet

/-- The set of the given texts. -/
def ofList (l : List String) : SortedSet :=
  SortedMap.ofList (l.map fun s => (s, ()))

end SortedSet

end TokenInventory
