import TokenInventory.Proofs.Store.Commit
import TokenInventory.Proofs.Store.Document

/-!
# A store and its file

The invariant of a store that was opened from a file is that opening the file again gives the store
itself (`Store.InSync`). A call that saves or removes a token keeps it, whether or not the file
takes the change: a change that succeeds is written as the document of the changed store, which is
opened as that store, and one that fails leaves document and text alone (`StoreCall.apply_cases`).
So store and file agree after any calls (`Store.inSync_applyAll`, `Store.opened_after_calls`).
-/

namespace TokenInventory

/-- A call that changes a store. -/
inductive StoreCall
  | save (token : Token)
  | remove (serial : String)

namespace StoreCall

/-- The serial that a call is about. -/
def serial : StoreCall → String
  | save token => token.serial
  | remove serial => serial

/-- The token that a call leaves under its serial when it succeeds. -/
def kept? : StoreCall → Option Token
  | save token => some token
  | remove _ => none

/-- What a call does. -/
def apply (store : Store) : StoreCall → Except StoreError Unit × Store
  | save token => store.save token
  | remove serial => store.remove serial

/-- The store after one call after the other, some of which may fail. -/
def applyAll (store : Store) (calls : List StoreCall) : Store :=
  calls.foldl (fun store call => (call.apply store).2) store

end StoreCall

namespace Store

/-- Whether a store is kept in a file that is opened as the store itself. -/
def InSync (store : Store) : Prop :=
  ∃ file, store.file = some file ∧ ofFile file = .ok store

variable {store : Store}

theorem inSync_of_ofFile {file : BackingFile} (h : ofFile file = .ok store) : store.InSync := by
  refine ⟨file, ?_, h⟩
  unfold ofFile ofDocument at h
  split at h
  · cases h
  · split at h <;> cases h
    rfl

theorem InSync.knowsUserRealms (h : store.InSync) : store.KnowsUserRealms := by
  obtain ⟨file, -, hopen⟩ := h
  unfold ofFile at hopen
  split at hopen
  · cases hopen
  · exact knowsUserRealms_of_ofDocument hopen

/-- An attempt to have other tokens keeps the file in step, whether or not it can be written. -/
theorem InSync.of_attempted (h : store.InSync) {tokens : TokenTable}
    {result : Except StoreError Unit × Store} (hattempted : Attempted store tokens result) :
    result.2.InSync := by
  have hknows := h.knowsUserRealms
  obtain ⟨file, hfile, hopen⟩ := h
  have hcontent : store.text? = some file.content := by rw [text?, hfile]; rfl
  cases hattempted with
  | written _ _ htext =>
    rw [hcontent, Option.map_some, Option.map_eq_some_iff] at htext
    obtain ⟨written, rfl, htext⟩ := htext
    exact ⟨written, rfl, ofFile_write { store with tokens } hknows htext⟩
  | undone _ _ htext =>
    rw [hcontent, Option.map_eq_some_iff] at htext
    obtain ⟨kept, rfl, htext⟩ := htext
    exact ⟨kept, rfl, ofFile_congr htext hopen⟩

theorem InSync.apply (h : store.InSync) (call : StoreCall) : (call.apply store).2.InSync := by
  cases call with
  | save token =>
    rw [StoreCall.apply]
    rcases store.save_cases token with ⟨realm, -, heq⟩ | ⟨-, hattempted⟩
    · rw [heq]
      exact h
    · exact h.of_attempted hattempted
  | remove serial =>
    rw [StoreCall.apply]
    rcases store.remove_cases serial with ⟨-, heq⟩ | ⟨token, -, hattempted⟩
    · rw [heq]
      exact h
    · exact h.of_attempted hattempted

/-- Store and file are in step after any calls. -/
theorem InSync.applyAll (h : store.InSync) (calls : List StoreCall) :
    (StoreCall.applyAll store calls).InSync := by
  induction calls generalizing store with
  | nil => exact h
  | cons call calls ih => exact ih (h.apply call)

end Store

namespace StoreCall

/-- What an attempt to make the change that a call is about gives. -/
theorem cases_of_attempted {store : Store} (call : StoreCall) {tokens : TokenTable}
    {result : Except StoreError Unit × Store} (hattempted : store.Attempted tokens result)
    (hget : ∀ serial, tokens.get? serial =
      if call.serial = serial then call.kept? else store.get? serial) :
    (result.1 = .ok () ∧ result.2.get? call.serial = call.kept? ∧
      result.2.AgreesOutside [call.serial] store ∧
      result.2.text? = store.text?.map fun _ => result.2.document.write) ∨
    ∃ e, result.1 = .error e ∧ result.2.document = store.document ∧
      result.2.text? = store.text? := by
  have hagree : result.2.AgreesOutside [call.serial] store :=
    hattempted.agreesOutside fun serial hs => by
      rw [hget, if_neg (Ne.symm (List.ne_of_not_mem_cons hs))]
  cases hattempted with
  | written _ _ htext => exact .inl ⟨rfl, (hget _).trans (if_pos rfl), hagree, htext⟩
  | undone _ _ htext => exact .inr ⟨_, rfl, rfl, htext⟩

/-- A call succeeds for its serial alone and is written, or it fails and changes nothing. -/
theorem apply_cases (store : Store) (call : StoreCall) :
    ((call.apply store).1 = .ok () ∧
      (call.apply store).2.get? call.serial = call.kept? ∧
      (call.apply store).2.AgreesOutside [call.serial] store ∧
      (call.apply store).2.text? =
        store.text?.map fun _ => (call.apply store).2.document.write) ∨
    ∃ e, (call.apply store).1 = .error e ∧
      (call.apply store).2.document = store.document ∧
      (call.apply store).2.text? = store.text? := by
  cases call with
  | save token =>
    rw [apply]
    rcases store.save_cases token with ⟨realm, -, heq⟩ | ⟨-, hattempted⟩
    · rw [heq]
      exact .inr ⟨_, rfl, rfl, rfl⟩
    · exact cases_of_attempted (.save token) hattempted (store.tokens.get?_insert token)
  | remove serial =>
    rw [apply]
    rcases store.remove_cases serial with ⟨-, heq⟩ | ⟨token, -, hattempted⟩
    · rw [heq]
      exact .inr ⟨_, rfl, rfl, rfl⟩
    · exact cases_of_attempted (.remove serial) hattempted (store.tokens.get?_erase serial)

end StoreCall

namespace Store

/-- After any calls on a store that was opened from a file, the file is opened afresh as the live
store, and tokens are kept under their serials. The next call either changes the token with its
serial and nothing else, and the file has the text of the changed document, or it fails and leaves
the document and the text of the file as they were. -/
theorem opened_after_calls {file : BackingFile} {store : Store} (hopen : ofFile file = .ok store)
    (calls : List StoreCall) :
    let live := StoreCall.applyAll store calls
    (∃ kept, live.file = some kept ∧ ∀ fresh : BackingFile, fresh.content = kept.content →
      ofFile fresh = .ok { live with file := some fresh }) ∧
    (∀ serial token, live.get? serial = some token → token.serial = serial) ∧
    ∀ call : StoreCall,
      match call.apply live with
      | (.ok (), next) => next.get? call.serial = call.kept? ∧
          next.AgreesOutside [call.serial] live ∧ next.text? = some next.document.write
      | (.error _, next) => next.document = live.document ∧ next.text? = live.text? := by
  intro live
  obtain ⟨kept, hkept, hlive⟩ : live.InSync := (inSync_of_ofFile hopen).applyAll calls
  have htext : live.text? = some kept.content := by rw [text?, hkept]; rfl
  refine ⟨⟨kept, hkept, fun fresh hfresh => ofFile_congr hfresh hlive⟩, live.tokens.keyed,
    fun call => ?_⟩
  rcases call.apply_cases live with ⟨hok, hget, hagree, hwritten⟩ | ⟨e, herror, hdocument, hsame⟩
  · rw [htext, Option.map_some] at hwritten
    split
    · next heq => rw [heq] at hget hagree hwritten; exact ⟨hget, hagree, hwritten⟩
    · next heq => rw [heq] at hok; cases hok
  · split
    · next heq => rw [heq] at herror; cases herror
    · next heq => rw [heq] at hdocument hsame; exact ⟨hdocument, hsame⟩

/-- A file with two tokens out of order that does not take the second change: the token that was
taken out is put back. -/
theorem opened_after_calls_unordered :
    let file : BackingFile :=
      { content := "\x7b\"tokens\": [[\"B2\", \"totp\"], [\"A1\", \"hotp\"]], \"realms\": [\"home\"]\x7d"
        accepts := fun n => n != 1 }
    ∃ store, ofFile file = .ok store ∧
      let live := StoreCall.applyAll store
        [.save { serial := "C3", tokenType := "hotp", realms := ["home"] }, .remove "A1",
          .save { serial := "D4", tokenType := "hotp", realms := ["abroad"] }]
      live.document.tokens.map Token.serial = ["A1", "B2", "C3"] ∧
      ∃ kept, live.file = some kept ∧ ∀ fresh : BackingFile, fresh.content = kept.content →
        ofFile fresh = .ok { live with file := some fresh } := by
  intro file
  have hserials : (ofFile file).toOption.map (fun store =>
      (StoreCall.applyAll store
        [.save { serial := "C3", tokenType := "hotp", realms := ["home"] }, .remove "A1",
          .save { serial := "D4", tokenType := "hotp", realms := ["abroad"] }]).document.tokens.map
        Token.serial) = some ["A1", "B2", "C3"] := by decide +kernel
  cases hopen : ofFile file with
  | error e => rw [hopen] at hserials; cases hserials
  | ok store =>
    rw [hopen] at hserials
    exact ⟨store, rfl, Option.some.inj hserials, (opened_after_calls hopen _).1⟩

end Store

end TokenInventory
