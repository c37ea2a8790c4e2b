import Mathlib.Data.List.Nodup
import TokenInventory.Proofs.SortedMap
import TokenInventory.Store.Admission

/-!
# Listings of token tables

The tokens of a table are listed by strictly ascending serial (`pairwise_toList`), and a token is
listed exactly if it is found under its serial (`mem_toList_iff`). The tokens after a serial are a
filter of the listing (`after_some`), and they depend on the serials above it only (`after_congr`).

A token that is put in or taken out is taken back by its undoing (`restore_insert`, `insert_erase`).
-/

namespace TokenInventory.TokenTable

theorem get?_insert (table : TokenTable) (token : Token) (serial : String) :
    (table.insert token).get? serial =
      if token.serial = serial then some token else table.get? serial :=
  SortedMap.get?_insert _ _ _ _

theorem get?_erase (table : TokenTable) (serial serial' : String) :
    (table.erase serial).get? serial' =
      if serial = serial' then none else table.get? serial' :=
  SortedMap.get?_erase _ _ _

/-- Tables with the same look-ups are equal. -/
theorem ext_get? {a b : TokenTable} (h : ∀ serial, a.get? serial = b.get? serial) : a = b := by
  have hmap : a.map = b.map := SortedMap.ext_get? h
  obtain ⟨m, hm⟩ := a
  obtain ⟨n, hn⟩ := b
  obtain rfl : m = n := hmap
  rfl

/-- Putting in a token that is there already changes nothing. -/
theorem insert_of_get? {table : TokenTable} {token : Token}
    (h : table.get? token.serial = some token) : table.insert token = table := by
  refine ext_get? fun serial => ?_
  rw [get?_insert]
  split
  · next heq => rw [← heq, h]
  · rfl

/-- Putting in a token is undone by restoring what was under its serial. -/
theorem restore_insert (table : TokenTable) (token : Token) :
    (table.insert token).restore token.serial (table.get? token.serial) = table := by
  refine ext_get? fun serial => ?_
  cases hprevious : table.get? token.serial with
  | none =>
    rw [restore, get?_erase, get?_insert]
    split
    · next heq => rw [← heq, hprevious]
    · rfl
  | some previous =>
    have hserial : previous.serial = token.serial := table.keyed _ _ hprevious
    rw [restore, get?_insert, get?_insert, hserial]
    split
    · next heq => rw [← heq, hprevious]
    · rfl

/-- Taking out a token is undone by putting it in again. -/
theorem insert_erase {table : TokenTable} {serial : String} {removed : Token}
    (h : table.get? serial = some removed) : (table.erase serial).insert removed = table := by
  have hserial : removed.serial = serial := table.keyed _ _ h
  refine ext_get? fun s => ?_
  rw [get?_insert, get?_erase, hserial]
  split
  · next heq => rw [← heq, h]
  · rfl

/-- The entries of a table are its tokens under their serials. -/
theorem entries_eq (table : TokenTable) :
    table.map.entries = table.toList.map fun token => (token.serial, token) := by
  rw [toList, SortedMap.values, List.map_map]
  have h : ∀ e ∈ table.map.entries, (e.2.serial, e.2) = e := fun e he =>
    Prod.ext (table.keyed e.1 e.2 (table.map.get?_eq_some_iff.2 he)) rfl
  exact (List.map_congr_left h).trans (List.map_id _) |>.symm

theorem pairwise_toList (table : TokenTable) :
    table.toList.Pairwise fun a b => a.serial < b.serial := by
  have := table.map.sorted
  rwa [entries_eq, List.pairwise_map] at this

theorem nodup_map_serial (table : TokenTable) : (table.toList.map Token.serial).Nodup :=
  List.pairwise_map.2 (table.pairwise_toList.imp fun h => h.ne)

theorem get?_eq_some_iff (table : TokenTable) {serial : String} {token : Token} :
    table.get? serial = some token ↔ token ∈ table.toList ∧ token.serial = serial := by
  rw [get?, SortedMap.get?_eq_some_iff, entries_eq, List.mem_map]
  constructor
  · rintro ⟨t, ht, he⟩
    obtain ⟨rfl, rfl⟩ := Prod.mk.inj he
    exact ⟨ht, rfl⟩
  · rintro ⟨ht, rfl⟩
    exact ⟨token, ht, rfl⟩

theorem mem_toList_iff (table : TokenTable) {token : Token} :
    token ∈ table.toList ↔ table.get? token.serial = some token := by
  rw [get?_eq_some_iff]
  exact (and_iff_left rfl).symm

theorem after_none (table : TokenTable) : table.after none = table.toList :=
  rfl

theorem after_some (table : TokenTable) (serial : String) :
    table.after (some serial) = table.toList.filter fun token => serial < token.serial := by
  rw [after, SortedMap.valuesAfter, entries_eq, List.filter_map, List.map_map]
  exact List.map_id _

/-- Whether a serial comes after the given one; all serials do when none is given. -/
def IsAfter (serial : Option String) (s : String) : Prop :=
  ∀ c ∈ serial, c < s

theorem mem_after_iff (table : TokenTable) (serial : Option String) {token : Token} :
    token ∈ table.after serial ↔ token ∈ table.toList ∧ IsAfter serial token.serial := by
  cases serial with
  | none => simp [after_none, IsAfter]
  | some c =>
    rw [after_some, List.mem_filter, decide_eq_true_iff]
    simp only [IsAfter, Option.mem_some_iff, forall_eq']

theorem pairwise_after (table : TokenTable) (serial : Option String) :
    (table.after serial).Pairwise fun a b => a.serial < b.serial := by
  cases serial with
  | none => exact table.pairwise_toList
  | some c =>
    rw [after_some]
    exact table.pairwise_toList.filter _

/-- A listing by ascending serial is determined by the tokens in it. -/
theorem eq_of_mem_iff {l l' : List Token} (h : l.Pairwise fun a b => a.serial < b.serial)
    (h' : l'.Pairwise fun a b => a.serial < b.serial) (hmem : ∀ token, token ∈ l ↔ token ∈ l') :
    l = l' := by
  have hnd : l.Nodup := h.imp fun hlt e => hlt.ne (congrArg Token.serial e)
  have hnd' : l'.Nodup := h'.imp fun hlt e => hlt.ne (congrArg Token.serial e)
  exact List.Perm.eq_of_pairwise (fun a b _ _ hab hba => absurd hab hba.asymm) h h'
    ((List.perm_ext_iff_of_nodup hnd hnd').2 hmem)

/-- The tokens after a serial depend on the serials after it only. -/
theorem after_congr {a b : TokenTable} {serial : Option String}
    (h : ∀ s, IsAfter serial s → a.get? s = b.get? s) : a.after serial = b.after serial := by
  refine eq_of_mem_iff (a.pairwise_after serial) (b.pairwise_after serial) fun token => ?_
  rw [mem_after_iff, mem_after_iff, mem_toList_iff, mem_toList_iff]
  exact and_congr_left fun hafter => by rw [h _ hafter]

end TokenInventory.TokenTable
