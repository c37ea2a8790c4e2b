import Mathlib.Data.List.Sort
import Mathlib.Data.String.Basic
import TokenInventory.SortedMap

/-!
# Listings of sorted maps

The listing of a map determines it. An entry with a key above all others goes to the end
(`SortedMap.insertEntry_of_forall_lt`), so the entries of a map, put into the empty map one after
the other, give the map back (`SortedMap.ofList_entries`). A set is determined by its members
(`SortedSet.ext_contains`).
-/

namespace TokenInventory

namespace SortedMap

variable {α : Type}

theorem insertEntry_of_forall_lt {key : String} (value : α) {l : List (String × α)}
    (h : ∀ e ∈ l, e.1 < key) : insertEntry key value l = l ++ [(key, value)] := by
  induction l with
  | nil => rfl
  | cons e l ih =>
    have he : e.1 < key := h e List.mem_cons_self
    rw [insertEntry, if_neg he.not_gt, if_neg he.ne, ih fun d hd => h d (List.mem_cons_of_mem _ hd)]
    rfl

theorem entries_foldl_insert (l : List (String × α)) (m : SortedMap α)
    (h : (m.entries ++ l).Pairwise fun a b => a.1 < b.1) :
    (l.foldl (fun m e => m.insert e.1 e.2) m).entries = m.entries ++ l := by
  induction l generalizing m with
  | nil => exact (List.append_nil _).symm
  | cons e l ih =>
    have hlt : ∀ d ∈ m.entries, d.1 < e.1 := fun d hd =>
      (List.pairwise_append.1 h).2.2 d hd e List.mem_cons_self
    have hins : (m.insert e.1 e.2).entries = m.entries ++ [e] :=
      insertEntry_of_forall_lt e.2 hlt
    have := ih (m.insert e.1 e.2) (by rw [hins, List.append_assoc]; exact h)
    rw [List.foldl_cons, this, hins, List.append_assoc]
    rfl

/-- A map is made of its entries. -/
theorem ofList_entries (m : SortedMap α) : ofList m.entries = m := by
  have h := entries_foldl_insert m.entries empty
    (by simpa only [empty, List.nil_append] using m.sorted)
  obtain ⟨l, hl⟩ := m
  cases hm : ofList l with
  | mk l' hl' =>
    have : l' = l := by
      rw [← h.trans (List.nil_append l)]
      exact congrArg entries hm.symm
    subst this
    rfl

theorem get?_eq_none_iff (m : SortedMap α) {key : String} :
    m.get? key = none ↔ key ∉ m.keys := by
  rw [← not_iff_not, not_not, ← Ne, Option.ne_none_iff_exists', keys, List.mem_map]
  constructor
  · rintro ⟨v, h⟩
    exact ⟨_, m.get?_eq_some_iff.1 h, rfl⟩
  · rintro ⟨e, he, rfl⟩
    exact ⟨e.2, m.get?_eq_some_iff.2 he⟩

theorem contains_iff (m : SortedMap α) {key : String} : m.contains key = true ↔ key ∈ m.keys := by
  rw [contains, Option.isSome_iff_ne_none, Ne, get?_eq_none_iff, not_not]

end SortedMap

namespace SortedSet

theorem contains_foldl_insert (l : List String) (m : SortedSet) (s : String) :
    ((l.map fun s => (s, ())).foldl (fun m e => m.insert e.1 e.2) m).contains s = true ↔
      m.contains s = true ∨ s ∈ l := by
  induction l generalizing m with
  | nil => simp
  | cons t l ih =>
    rw [List.map_cons, List.foldl_cons, ih, SortedMap.contains, SortedMap.get?_insert,
      List.mem_cons]
    by_cases h : t = s
    · simp [h]
    · simp [h, Ne.symm h, SortedMap.contains]

theorem contains_ofList (l : List String) (s : String) :
    (ofList l).contains s = true ↔ s ∈ l := by
  rw [ofList, SortedMap.ofList, contains_foldl_insert]
  simp [SortedMap.contains]

/-- Sets with the same members are equal. -/
theorem ext_contains {a b : SortedSet} (h : ∀ s, a.contains s = true ↔ b.contains s = true) :
    a = b := by
  refine SortedMap.ext_get? fun s => ?_
  have := h s
  simp only [SortedMap.contains] at this
  cases ha : a.get? s <;> cases hb : b.get? s <;> simp_all

end SortedSet

end TokenInventory
