import Mathlib.Logic.Relation
import TokenInventory.Proofs.Store.Durability

/-!
# Stores reached by calls

Whatever changes a store does it by calls that save or remove a token. A call either leaves all
tokens as they are or puts its token in the place of the one with its serial, and then the realms of
that token are known (`StoreCall.apply_get?_cases`). Which calls are made may depend on the store at
that moment: `Store.Reaches` is about calls that are allowed when they are made, and what every
allowed call keeps is true of every store that is reached (`Store.Reaches.invariant`).
-/

namespace TokenInventory

namespace StoreCall

variable (store : Store) (call : StoreCall)

theorem apply_agreesOutside : (call.apply store).2.AgreesOutside [call.serial] store := by
  cases call with
  | save token => exact store.save_agreesOutside token
  | remove serial => exact store.remove_agreesOutside serial

theorem knowsRealm_apply (realm : String) :
    (call.apply store).2.knowsRealm realm = store.knowsRealm realm := by
  rw [Store.knowsRealm, (call.apply_agreesOutside store).realms_eq, Store.knowsRealm]

theorem file_apply_eq_none_iff : (call.apply store).2.file = none ↔ store.file = none := by
  cases call with
  | save token => exact store.file_save_eq_none_iff token
  | remove serial => exact store.file_remove_eq_none_iff serial

/-- A call leaves all tokens as they are, or it puts its token, whose realms are known, in the place
of the one with its serial. -/
theorem apply_get?_cases :
    (∀ serial, (call.apply store).2.get? serial = store.get? serial) ∨
    (∀ token ∈ call.kept?, ∀ realm ∈ token.realms, store.knowsRealm realm = true) ∧
      ∀ serial, (call.apply store).2.get? serial =
        if call.serial = serial then call.kept? else store.get? serial := by
  cases call with
  | save token =>
    rw [apply]
    rcases store.save_cases token with ⟨realm, -, heq⟩ | ⟨hnone, hattempted⟩
    · rw [heq]
      exact .inl fun _ => rfl
    rcases hattempted.ok_or_error with ⟨store', heq, htokens, -⟩ | ⟨store', heq, hagree, -⟩ <;>
      rw [heq]
    · have hknown := Store.find?_not_knowsRealm_eq_none_iff.1 hnone
      refine .inr ⟨fun kept hkept => Option.mem_some_iff.1 hkept ▸ hknown, fun serial => ?_⟩
      rw [Store.get?, htokens, TokenTable.get?_insert]
      rfl
    · exact .inl fun serial => hagree.get?_eq serial List.not_mem_nil
  | remove serial =>
    rw [apply]
    rcases store.remove_cases serial with ⟨-, heq⟩ | ⟨token, -, hattempted⟩
    · rw [heq]
      exact .inl fun _ => rfl
    rcases hattempted.ok_or_error with ⟨store', heq, htokens, -⟩ | ⟨store', heq, hagree, -⟩ <;>
      rw [heq]
    · refine .inr ⟨fun kept hkept => (Option.not_mem_none _ hkept).elim, fun serial' => ?_⟩
      rw [Store.get?, htokens, TokenTable.get?_erase]
      rfl
    · exact .inl fun serial => hagree.get?_eq serial List.not_mem_nil

variable {store call}

/-- A token in a store after a call was there before, or it is the token that was saved. -/
theorem get?_apply {serial : String} {token : Token}
    (h : (call.apply store).2.get? serial = some token) :
    store.get? serial = some token ∨
      call = .save token ∧ ∀ realm ∈ token.realms, store.knowsRealm realm = true := by
  rcases call.apply_get?_cases store with hsame | ⟨hknown, hchanged⟩
  · exact .inl ((hsame serial).symm.trans h)
  rw [hchanged] at h
  split at h
  · refine .inr ⟨?_, hknown token h⟩
    cases call with
    | save saved => rw [Option.some.inj h]
    | remove _ => cases h
  · exact .inl h

end StoreCall

namespace Store

/-- Whether a store comes from another one by a call that is allowed. -/
def Step (allowed : Store → StoreCall → Prop) (store store' : Store) : Prop :=
  ∃ call, allowed store call ∧ (call.apply store).2 = store'

/-- Whether a store comes from another one by calls each of which is allowed when it is made. -/
def Reaches (allowed : Store → StoreCall → Prop) : Store → Store → Prop :=
  Relation.ReflTransGen (Step allowed)

namespace Reaches

variable {allowed allowed' : Store → StoreCall → Prop} {store store' store'' : Store}

theorem refl : Reaches allowed store store :=
  Relation.ReflTransGen.refl

theorem trans (h : Reaches allowed store store') (h' : Reaches allowed store' store'') :
    Reaches allowed store store'' :=
  Relation.ReflTransGen.trans h h'

theorem single {call : StoreCall} (h : allowed store call) :
    Reaches allowed store (call.apply store).2 :=
  Relation.ReflTransGen.single ⟨call, h, rfl⟩

theorem mono (hallowed : ∀ store call, allowed store call → allowed' store call)
    (h : Reaches allowed store store') : Reaches allowed' store store' :=
  Relation.ReflTransGen.mono (fun _ _ ⟨call, hcall, heq⟩ => ⟨call, hallowed _ _ hcall, heq⟩) _ _ h

/-- What every allowed call keeps is true of every store that is reached. -/
theorem invariant {P : Store → Prop} (h : Reaches allowed store store')
    (hcall : ∀ store call, allowed store call → P store → P (call.apply store).2)
    (hstart : P store) : P store' := by
  induction h with
  | refl => exact hstart
  | tail _ hstep ih =>
    obtain ⟨call, hallowed, rfl⟩ := hstep
    exact hcall _ call hallowed ih

end Reaches

end Store

end TokenInventory
