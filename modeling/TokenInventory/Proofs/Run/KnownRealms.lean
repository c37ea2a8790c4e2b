import TokenInventory.Proofs.Run.Calls

/-!
# Realms that are known and realms that are not

A store keeps the realms it was opened with: those of its document and those its users live in.
Tokens in other realms come from the document alone, because every way to put a token into a store
goes through the check of its realms, and a token of the document that is put in again is checked
like any other (`Store.Inherits`). Each call keeps this, so it is true after any operations on a
store that was opened (`Store.inherits_applyAll`).
-/

namespace TokenInventory.Store

/-- Whether a store knows the realms of a document and those of its users, and no others, and holds
tokens outside of them only as the document has them. -/
structure Inherits (document : Document) (store : Store) : Prop where
  knowsRealm_iff : ∀ realm, store.knowsRealm realm = true ↔
    realm ∈ document.realms ∨ ∃ user ∈ document.users, user.realm = realm
  known_or_mem : ∀ serial token, store.get? serial = some token →
    (∀ realm ∈ token.realms, store.knowsRealm realm = true) ∨
      token ∈ document.tokens ∧ token.serial = serial

variable {document : Document} {store : Store}

theorem inherits_of_ofDocument {file : Option BackingFile}
    (h : ofDocument document file = .ok store) : store.Inherits document := by
  unfold ofDocument at h
  split at h
  · cases h
  · next tokens htokens =>
    cases h
    constructor
    · intro realm
      rw [knowsRealm, SortedSet.contains_ofList, List.mem_append, List.mem_map]
    · intro serial token hget
      exact .inr ⟨TokenTable.mem_of_ofList htokens hget, tokens.keyed serial token hget⟩

theorem Inherits.apply (h : store.Inherits document) (call : StoreCall) :
    (call.apply store).2.Inherits document where
  knowsRealm_iff realm := by rw [call.knowsRealm_apply, h.knowsRealm_iff]
  known_or_mem serial token hget := by
    simp only [call.knowsRealm_apply store]
    rcases StoreCall.get?_apply hget with hbefore | ⟨-, hknown⟩
    · exact h.known_or_mem serial token hbefore
    · exact .inl hknown

/-- After any operations on a store that was opened from a document, the known realms are those of
the document and those of its users, and each token lies in known realms or is the one that the
document has under its serial. -/
theorem inherits_applyAll {file : Option BackingFile}
    (hopen : ofDocument document file = .ok store) (operations : List Operation) :
    (Operation.applyAll store operations).Inherits document :=
  Operation.invariant_applyAll (fun _ _ _ call _ h => h.apply call) (inherits_of_ofDocument hopen)

/-- A token in a realm that is not known is taken out and cannot be put in again, and an entry moves
another one. -/
theorem inherits_applyAll_abroad :
    let document : Document :=
      { tokens := [{ serial := "A1", tokenType := "hotp", realms := ["abroad"] },
          { serial := "B2", tokenType := "totp", realms := ["abroad"] }]
        users := [{ uid := "1", resolver := "r", realm := "home", username := "alice" }]
        realms := ["corp"] }
    let file : ImportFile :=
      { path := "tokens.yaml", content := .ok "- serial: B2\n  type: totp\n  realms: [corp]\n" }
    ∃ store, inMemory document = .ok store ∧
      (Operation.applyAll store
        [.call (.remove "A1"),
          .call (.save { serial := "A1", tokenType := "hotp", realms := ["abroad"] }),
          .update file {}]).Inherits document := by
  intro document file
  have hopens : (inMemory document).toBool = true := by decide +kernel
  cases hopen : inMemory document with
  | error e => rw [hopen] at hopens; cases hopens
  | ok store => exact ⟨store, rfl, inherits_applyAll hopen _⟩

end TokenInventory.Store
