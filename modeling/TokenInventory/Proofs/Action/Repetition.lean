import TokenInventory.Proofs.Action.Change

/-!
# Changes that were made already

What a change makes of a token is left alone by the same change (`Change.intended_of_intended`),
whatever the change. So in a store that is kept in no file, a change does nothing to a token that is
as the change intends, and it does nothing either to a token that it cannot save
(`Change.IsSettled.carryOut_eq`).
-/

namespace TokenInventory

/-- Entries that were set can be set again. -/
theorem foldl_insert_foldl_insert (pairs : List (String × String)) (info : SortedMap String) :
    pairs.foldl (fun info (key, value) => info.insert key value)
        (pairs.foldl (fun info (key, value) => info.insert key value) info) =
      pairs.foldl (fun info (key, value) => info.insert key value) info := by
  refine SortedMap.ext_get? fun key => ?_
  rw [get?_foldl_insert, get?_foldl_insert, ← Option.or_assoc, Option.or_self]

/-- Keys that were erased can be erased again. -/
theorem foldl_erase_foldl_erase (keys : List String) (info : SortedMap String) :
    keys.foldl SortedMap.erase (keys.foldl SortedMap.erase info) =
      keys.foldl SortedMap.erase info := by
  refine SortedMap.ext_get? fun key => ?_
  rw [get?_foldl_erase, get?_foldl_erase]
  split_ifs <;> rfl

namespace Change

variable {c : Change} {store : Store} {token token' : Token}

/-- What a change makes of a token is as the change intends. -/
theorem intended_of_intended (h : c.intended token = some token') :
    c.intended token' = some token' := by
  cases c with
  | setRealms realms => cases h; rfl
  | disable => cases h; rfl
  | delete => cases h
  | unassign => cases h; rfl
  | setDescription description => cases h; rfl
  | setInfo pairs =>
    cases h
    simp only [intended, foldl_insert_foldl_insert]
  | deleteInfo keys =>
    cases h
    simp only [intended, foldl_erase_foldl_erase]

/-- Whether a token is as a change intends or cannot be saved by it. -/
def IsSettled (c : Change) (store : Store) (token : Token) : Prop :=
  c.intended token = some token ∨ (c.plan token).effect.IsHindered store

end Change

/-- In memory a change leaves the store alone if its token is settled. -/
theorem Change.IsSettled.carryOut_eq {c : Change} {store : Store} {token : Token}
    (h : c.IsSettled store token) (hfile : store.file = none)
    (hget : store.get? token.serial = some token) :
    ((c.plan token).effect.carryOut token.serial store).2 = store := by
  rw [IsSettled, ← c.resultOn_effect token] at h
  cases heffect : (c.plan token).effect with
  | none => rfl
  | save saved =>
    rw [heffect] at h
    rw [Effect.carryOut]
    rcases store.save_cases saved with ⟨realm, -, heq⟩ | ⟨hnone, hattempted⟩
    · rw [heq]
    rcases h with hsaved | ⟨realm, hmem, hunknown⟩
    · obtain rfl : saved = token := Option.some.inj hsaved
      rw [hattempted.eq_of_file_eq_none hfile, TokenTable.insert_of_get? hget]
    · have hknown := Store.find?_not_knowsRealm_eq_none_iff.1 hnone
      cases (hknown realm hmem).symm.trans hunknown
  | remove =>
    rw [heffect] at h
    rcases h with hnone | hfalse
    · cases hnone
    · exact hfalse.elim

end TokenInventory
