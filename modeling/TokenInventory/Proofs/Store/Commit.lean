import TokenInventory.Proofs.Store.Table

/-!
# What a change does to a store

A change is made in memory, written, and undone if it cannot be written. So it either happens in
memory and in the file, or in neither (`Attempted`), provided that undoing it gives the tokens that
there were (`attempted_commit`). This is so when a token is put in, whether or not there was one
with its serial, and when it is taken out: saving and removing a token are attempts to have the
table with that token put in or taken out, unless they are refused before (`save_cases`,
`remove_cases`). So they leave the tokens with other serials, the users and the realms alone
(`save_agreesOutside`, `remove_agreesOutside`).
-/

namespace TokenInventory.Store

/-- Stores with the same look-ups, users, realms and file are equal. -/
theorem ext_get? {a b : Store} (husers : a.users = b.users) (hrealms : a.realms = b.realms)
    (hfile : a.file = b.file) (h : ∀ serial, a.get? serial = b.get? serial) : a = b := by
  have htokens : a.tokens = b.tokens := TokenTable.ext_get? h
  obtain ⟨tokens, users, realms, file⟩ := a
  obtain ⟨tokens', users', realms', file'⟩ := b
  cases husers
  cases hrealms
  cases hfile
  cases htokens
  rfl

/-- The text that the file of a store holds. -/
def text? (store : Store) : Option String :=
  store.file.map BackingFile.content

/-- Whether a store differs from another one at most in its file and in the tokens with the given
serials. -/
structure AgreesOutside (serials : List String) (a b : Store) : Prop where
  users_eq : a.users = b.users
  realms_eq : a.realms = b.realms
  get?_eq : ∀ serial ∉ serials, a.get? serial = b.get? serial

namespace AgreesOutside

variable {serials serials' : List String} {a b c : Store}

theorem refl (serials : List String) (a : Store) : AgreesOutside serials a a :=
  ⟨rfl, rfl, fun _ _ => rfl⟩

theorem trans (hab : AgreesOutside serials a b) (hbc : AgreesOutside serials b c) :
    AgreesOutside serials a c :=
  ⟨hab.users_eq.trans hbc.users_eq, hab.realms_eq.trans hbc.realms_eq,
    fun s hs => (hab.get?_eq s hs).trans (hbc.get?_eq s hs)⟩

theorem mono (h : AgreesOutside serials a b) (hsub : serials ⊆ serials') :
    AgreesOutside serials' a b :=
  ⟨h.users_eq, h.realms_eq, fun s hs => h.get?_eq s fun hmem => hs (hsub hmem)⟩

end AgreesOutside

/-- Whether the file of a store, if there is one, refuses to be written after it has been asked `n`
more times. -/
def refuses (store : Store) (n : Nat) : Bool :=
  store.file.any fun file => !file.accepts (file.attempts + n)

theorem refuses_of_file_eq_none {store : Store} (h : store.file = none) (n : Nat) :
    store.refuses n = false := by
  rw [refuses, h]
  rfl

/-- What an attempt to have the given tokens in a store has come to: they are in memory and in the
file, or nothing has changed in either. The file, if there is one, has been asked once. -/
inductive Attempted (store : Store) (tokens : TokenTable) : Except StoreError Unit × Store → Prop
  | written {file : Option BackingFile} (haccepted : store.refuses 0 = false)
    (hnext : ∀ n, refuses { store with file } n = store.refuses (n + 1))
    (htext : file.map BackingFile.content =
      store.text?.map fun _ => ({ store with tokens } : Store).document.write) :
    Attempted store tokens (.ok (), { store with tokens, file })
  | undone {file : Option BackingFile} (hrefused : store.refuses 0 = true)
    (hnext : ∀ n, refuses { store with file } n = store.refuses (n + 1))
    (htext : file.map BackingFile.content = store.text?) :
    Attempted store tokens (.error (.file .refused), { store with file })

variable (store : Store)

/-- Writing the store is an attempt to have the tokens that it has. -/
theorem attempted_persist : Attempted store store.tokens store.persist := by
  unfold persist
  cases hfile : store.file with
  | none =>
    have hrefuses := refuses_of_file_eq_none hfile
    have hsame : ({ store with file := none } : Store) = store := by rw [← hfile]
    have htext : store.text? = none := by rw [text?, hfile]; rfl
    have hwritten : Attempted store store.tokens (.ok (), { store with file := none }) :=
      .written (hrefuses 0) (fun n => (refuses_of_file_eq_none rfl n).trans (hrefuses _).symm)
        (by rw [htext]; rfl)
    rwa [hsame] at hwritten
  | some file =>
    have htext : store.text? = some file.content := by rw [text?, hfile]; rfl
    have hrefuses (n : Nat) : store.refuses n = !file.accepts (file.attempts + n) := by
      rw [refuses, hfile]; rfl
    have hnext (written : BackingFile) (haccepts : written.accepts = file.accepts)
        (hattempts : written.attempts = file.attempts + 1) (n : Nat) :
        refuses { store with file := some written } n = store.refuses (n + 1) := by
      rw [hrefuses, Nat.add_comm n, ← Nat.add_assoc, ← hattempts, ← haccepts]
      rfl
    simp only [BackingFile.write]
    cases haccepted : file.accepts file.attempts with
    | true =>
      refine .written ?_ (hnext _ rfl rfl) (by rw [htext]; rfl)
      rw [hrefuses, Nat.add_zero, haccepted]
      rfl
    | false =>
      refine .undone ?_ (hnext _ rfl rfl) htext.symm
      rw [hrefuses, Nat.add_zero, haccepted]
      rfl

/-- A change that can be undone is an attempt to have the changed tokens. -/
theorem attempted_commit (change undo : TokenTable → TokenTable)
    (hundo : undo (change store.tokens) = store.tokens) :
    Attempted store (change store.tokens) (store.commit change undo) := by
  have hpersist := attempted_persist { store with tokens := change store.tokens }
  unfold commit
  generalize persist _ = result at hpersist ⊢
  cases hpersist with
  | written haccepted hnext htext => exact .written haccepted hnext htext
  | undone hrefused hnext htext =>
    dsimp only
    rw [hundo]
    exact .undone hrefused hnext htext

/-- Saving a token is refused for an unknown realm, or it attempts to put the token in. -/
theorem save_cases (token : Token) :
    (∃ realm, token.realms.find? (fun realm => !store.knowsRealm realm) = some realm ∧
      store.save token = (.error (.unknownRealm realm), store)) ∨
    token.realms.find? (fun realm => !store.knowsRealm realm) = none ∧
      Attempted store (store.tokens.insert token) (store.save token) := by
  unfold save
  cases token.realms.find? fun realm => !store.knowsRealm realm with
  | some realm => exact .inl ⟨realm, rfl, rfl⟩
  | none =>
    exact .inr ⟨rfl, store.attempted_commit (·.insert token) _ (store.tokens.restore_insert token)⟩

/-- Removing a token is refused if there is none with the serial, or it attempts to take it out. -/
theorem remove_cases (serial : String) :
    (store.get? serial = none ∧
      store.remove serial = (.error (.tokenNotFound serial), store)) ∨
    ∃ token, store.get? serial = some token ∧
      Attempted store (store.tokens.erase serial) (store.remove serial) := by
  unfold remove
  cases hget : store.get? serial with
  | none => exact .inl ⟨rfl, rfl⟩
  | some token =>
    have hundo := TokenTable.insert_erase hget
    exact .inr ⟨token, rfl, store.attempted_commit (·.erase serial) _ hundo⟩

variable {store}

/-- No realm of a token is found that is not known if all are known. -/
theorem find?_not_knowsRealm_eq_none_iff {token : Token} :
    token.realms.find? (fun realm => !store.knowsRealm realm) = none ↔
      ∀ realm ∈ token.realms, store.knowsRealm realm = true := by
  simp [List.find?_eq_none]

namespace Attempted

variable {tokens : TokenTable} {result : Except StoreError Unit × Store}

theorem file_eq_none_iff (h : Attempted store tokens result) :
    result.2.file = none ↔ store.file = none := by
  cases h with
  | written _ _ htext | undone _ _ htext =>
    have := congrArg (· = none) htext
    simpa [text?] using this

theorem refuses_eq (h : Attempted store tokens result) (n : Nat) :
    result.2.refuses n = store.refuses (n + 1) := by
  cases h with
  | written _ hnext _ | undone _ hnext _ => exact hnext n

/-- An attempt changes what differs in the tokens at most. -/
theorem agreesOutside (h : Attempted store tokens result) {serials : List String}
    (hsame : ∀ serial ∉ serials, tokens.get? serial = store.get? serial) :
    AgreesOutside serials result.2 store := by
  cases h with
  | written => exact ⟨rfl, rfl, hsame⟩
  | undone => exact ⟨rfl, rfl, fun _ _ => rfl⟩

/-- A store in memory has the tokens. -/
theorem eq_of_file_eq_none (h : Attempted store tokens result) (hfile : store.file = none) :
    result = (.ok (), { store with tokens }) := by
  have hnone := h.file_eq_none_iff.2 hfile
  cases h with
  | written =>
    obtain rfl := hnone
    rw [← hfile]
  | undone hrefused =>
    rw [refuses_of_file_eq_none hfile] at hrefused
    cases hrefused

/-- An attempt puts the tokens into the store, or the file has refused it and all tokens are as they
were. -/
theorem ok_or_error (h : Attempted store tokens result) :
    (∃ store', result = (.ok (), store') ∧ store'.tokens = tokens ∧ store.refuses 0 = false) ∨
      ∃ store', result = (.error (.file .refused), store') ∧ AgreesOutside [] store' store ∧
        store.refuses 0 = true := by
  cases h with
  | written haccepted => exact .inl ⟨_, rfl, rfl, haccepted⟩
  | undone hrefused => exact .inr ⟨_, rfl, ⟨rfl, rfl, fun _ _ => rfl⟩, hrefused⟩

end Attempted

theorem file_save_eq_none_iff (token : Token) :
    (store.save token).2.file = none ↔ store.file = none := by
  rcases store.save_cases token with ⟨realm, -, heq⟩ | ⟨-, hattempted⟩
  · rw [heq]
  · exact hattempted.file_eq_none_iff

theorem file_remove_eq_none_iff (serial : String) :
    (store.remove serial).2.file = none ↔ store.file = none := by
  rcases store.remove_cases serial with ⟨-, heq⟩ | ⟨token, -, hattempted⟩
  · rw [heq]
  · exact hattempted.file_eq_none_iff

theorem save_agreesOutside (token : Token) :
    AgreesOutside [token.serial] (store.save token).2 store := by
  rcases store.save_cases token with ⟨realm, -, heq⟩ | ⟨-, hattempted⟩
  · rw [heq]
    exact .refl _ _
  · refine hattempted.agreesOutside fun serial hs => ?_
    rw [TokenTable.get?_insert, if_neg (Ne.symm (List.ne_of_not_mem_cons hs))]
    rfl

theorem remove_agreesOutside (serial : String) :
    AgreesOutside [serial] (store.remove serial).2 store := by
  rcases store.remove_cases serial with ⟨-, heq⟩ | ⟨token, -, hattempted⟩
  · rw [heq]
    exact .refl _ _
  · refine hattempted.agreesOutside fun s hs => ?_
    rw [TokenTable.get?_erase, if_neg (Ne.symm (List.ne_of_not_mem_cons hs))]
    rfl

end TokenInventory.Store
