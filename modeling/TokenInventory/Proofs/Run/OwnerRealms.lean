import TokenInventory.Proofs.Run.Calls
import TokenInventory.Proofs.Run.Update

/-!
# Tokens in the realms of their owners

A token that is given to an owner joins the realm of the owner (`Token.assignedTo`). No change takes
it out of that realm again: setting the realms of a token adds that of its owner, and the other
changes leave owner and realms alone or take the owner away (`Change.realms_of_intended`). Loading a
container adds tokens without owners. Saving a token and updating it from an entry give it the
realms they are told, so after any operations a token that is not in the realm of its owner has the
realms that one of these gave it (`Store.keepsOwnerRealms_applyAll`).
-/

namespace TokenInventory

/-- Whether a token lies in the realm of its owner, if it has one. -/
def Token.ListsOwnerRealm (token : Token) : Prop :=
  ∀ owner ∈ token.owner, owner.realm ∈ token.realms

instance (token : Token) : Decidable token.ListsOwnerRealm :=
  inferInstanceAs (Decidable (∀ owner ∈ token.owner, owner.realm ∈ token.realms))

theorem Token.listsOwnerRealm_assignedTo (owner : Owner) (token : Token) :
    (token.assignedTo owner).ListsOwnerRealm := by
  rintro _ ⟨rfl⟩
  exact List.mem_append_right _ (List.mem_singleton_self _)

/-- Whether an operation gives the token with a serial the realms as they are told, whoever owns the
token. -/
def Operation.Imposes (serial : String) (realms : List String) : Operation → Prop
  | .call (.save token) => token.serial = serial ∧ token.realms = realms
  | .update file _ => ∃ entry, file.Holds entry ∧ entry.serial = serial ∧ entry.realms = realms
  | _ => False

/-- A change puts a token into the realm of its owner or leaves owner and realms alone. -/
theorem Change.realms_of_intended {c : Change} {token saved : Token}
    (h : c.intended token = some saved) :
    saved.ListsOwnerRealm ∨ saved.owner = token.owner ∧ saved.realms = token.realms := by
  cases c with
  | setRealms realms =>
    cases h
    refine .inl fun owner howner => ?_
    by_cases hmem : owner.realm ∈ realms
    · exact List.mem_append_left _ hmem
    · have howner : token.owner = some owner := howner
      exact List.mem_append_right _ (by simp [howner, hmem])
  | delete => cases h
  | unassign =>
    cases h
    exact .inl fun owner howner => (Option.not_mem_none owner howner).elim
  | disable | setDescription _ | setInfo _ | deleteInfo _ =>
    cases h
    exact .inr ⟨rfl, rfl⟩

namespace Store

/-- Whether each token lies in the realm of its owner or has realms that one of the operations
imposes. -/
def KeepsOwnerRealms (operations : List Operation) (store : Store) : Prop :=
  ∀ serial token, store.get? serial = some token →
    token.ListsOwnerRealm ∨ ∃ operation ∈ operations, operation.Imposes serial token.realms

variable {store : Store} {operations : List Operation}

/-- A call of one of the operations keeps what the tokens have to do with the realms of their
owners. -/
theorem KeepsOwnerRealms.apply (h : store.KeepsOwnerRealms operations) {operation : Operation}
    {call : StoreCall} (hoperation : operation ∈ operations)
    (hmakes : operation.Makes store call) :
    (call.apply store).2.KeepsOwnerRealms operations := by
  intro serial token hget
  have hserial : token.serial = serial := (call.apply store).2.tokens.keyed serial token hget
  rcases StoreCall.get?_apply hget with hbefore | ⟨rfl, -⟩
  · exact h serial token hbefore
  cases hmakes with
  | call => exact .inr ⟨_, hoperation, hserial, rfl⟩
  | run hmakes =>
    obtain ⟨c, -, hmakes⟩ := hmakes
    cases hmakes with
    | @save stored _ hstored heffect =>
      rcases Change.realms_of_intended (c.intended_of_save heffect) with
        hlists | ⟨howner, hrealms⟩
      · exact .inl hlists
      -- The change has left owner and realms alone, so the stored token decides.
      · rw [← Change.serial_of_save heffect, hserial] at hstored
        rw [Token.ListsOwnerRealm, howner, hrealms]
        exact h serial stored hstored
  | @update _ _ _ entry stored _ hentry hstored happly =>
    have hentrySerial : token.serial = entry.serial :=
      (Entry.agreesInIdentity_of_applyTo happly).serial_eq.trans
        (store.tokens.keyed _ stored hstored)
    exact .inr ⟨_, hoperation, entry, hentry, hentrySerial.symm.trans hserial,
      (Entry.realms_of_applyTo happly).symm⟩
  | load _ => exact .inl fun owner howner => (Option.not_mem_none owner howner).elim

/-- After any operations on a store whose tokens lie in the realms of their owners, a token lies in
the realm of its owner, or it has the realms that one of the operations imposed. Runs, whatever
their actions do and wherever they end, and loading containers impose none. -/
theorem keepsOwnerRealms_applyAll
    (hstart : ∀ serial token, store.get? serial = some token → token.ListsOwnerRealm)
    (operations : List Operation) :
    (Operation.applyAll store operations).KeepsOwnerRealms operations :=
  Operation.invariant_applyAll (fun _ hoperation _ _ hmakes h => h.apply hoperation hmakes)
    fun serial token hget => .inl (hstart serial token hget)

/-- A store of one token, which was given to an owner, has it in the realm of the owner. -/
theorem listsOwnerRealm_of_singleton {owner : Owner} {given : Token} {users : List User}
    {realms : SortedSet} (serial : String) (token : Token)
    (hget : Store.get? { tokens := TokenTable.empty.insert (given.assignedTo owner), users, realms }
      serial = some token) : token.ListsOwnerRealm := by
  rw [get?, TokenTable.get?_insert] at hget
  split at hget
  · cases hget
    exact Token.listsOwnerRealm_assignedTo _ _
  · cases hget

/-- A token whose realms are set, and which is disabled then, stays in the realm of its owner. -/
theorem keepsOwnerRealms_applyAll_runs :
    let store : Store :=
      { tokens := TokenTable.empty.insert
          (Token.assignedTo ⟨"1", "r", "corp"⟩ { serial := "A1", tokenType := "hotp" })
        users := []
        realms := .ofList ["corp", "home"] }
    let around : Circumstances := ⟨.universal, ⟨0, 0⟩⟩
    let entropy : Entropy := ⟨fun _ => 0, 0⟩
    let operations : List Operation :=
      [.run { action := .change (.setRealms ["home"]) } around entropy {},
        .run { action := .change .disable } around entropy {}]
    (∀ serial token, store.get? serial = some token → token.ListsOwnerRealm) ∧
      ((Operation.applyAll store operations).get? "A1").map Token.realms =
        some ["home", "corp"] ∧
      (Operation.applyAll store operations).KeepsOwnerRealms operations := by
  intro store around entropy operations
  have hstart : ∀ serial token, store.get? serial = some token → token.ListsOwnerRealm :=
    listsOwnerRealm_of_singleton
  exact ⟨hstart, by decide +kernel, keepsOwnerRealms_applyAll hstart operations⟩

/-- An entry without realms takes a token out of the realm of its owner. -/
theorem not_listsOwnerRealm_update :
    let store : Store :=
      { tokens := TokenTable.empty.insert
          (Token.assignedTo ⟨"1", "r", "corp"⟩ { serial := "A1", tokenType := "hotp" })
        users := []
        realms := .ofList ["corp"] }
    let file : ImportFile :=
      { path := "tokens.yaml", content := .ok "- serial: A1\n  type: hotp\n" }
    (∀ serial token, store.get? serial = some token → token.ListsOwnerRealm) ∧
      ¬∀ serial token, (Operation.applyAll store [.update file {}]).get? serial = some token →
        token.ListsOwnerRealm := by
  intro store file
  refine ⟨listsOwnerRealm_of_singleton, fun h => ?_⟩
  have hdropped : ((Operation.applyAll store [.update file {}]).get? "A1").any
      (fun token => ¬token.ListsOwnerRealm) = true := by decide +kernel
  obtain ⟨token, hget, hnot⟩ := (Option.any_eq_true _ _).1 hdropped
  exact of_decide_eq_true hnot (h "A1" token hget)

end Store

end TokenInventory
