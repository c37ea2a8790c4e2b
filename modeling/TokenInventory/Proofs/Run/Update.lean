import Mathlib.Data.List.Induction
import TokenInventory.Proofs.Run.ImportChannel
import TokenInventory.Proofs.Store.Commit

/-!
# Updating tokens from entries

Whether an entry can be applied depends on the serials and types of the stored tokens and on the
known realms, and no update changes these (`Entry.isApplicable_congr`). So it does not matter what
the entries before it have done: an entry that cannot be applied changes nothing, of the others the
last one for a token counts (`Updated.updateToken`), and a second update from the same entries
leaves the store as the first one has left it (`updateTokens_updateTokens`).
-/

namespace TokenInventory

/-! ## Applying an entry -/

/-- Whether a token agrees with another one in all that an entry does not describe. -/
structure Token.AgreesInIdentity (a b : Token) : Prop where
  serial_eq : a.serial = b.serial
  tokenType_eq : a.tokenType = b.tokenType
  owner_eq : a.owner = b.owner
  revoked_eq : a.revoked = b.revoked
  locked_eq : a.locked = b.locked

theorem Token.AgreesInIdentity.trans {a b c : Token} (hab : a.AgreesInIdentity b)
    (hbc : b.AgreesInIdentity c) : a.AgreesInIdentity c :=
  ⟨hab.serial_eq.trans hbc.serial_eq, hab.tokenType_eq.trans hbc.tokenType_eq,
    hab.owner_eq.trans hbc.owner_eq, hab.revoked_eq.trans hbc.revoked_eq,
    hab.locked_eq.trans hbc.locked_eq⟩

/-- What becomes of a token by an entry, if there is one. -/
def Token.Becomes (token token' : Token) : Option Entry → Prop
  | none => token' = token
  | some entry => entry.applyTo token = .ok token'

namespace Entry

variable {entry : Entry} {token token' a b : Token}

theorem applyTo_eq_ok_iff : entry.applyTo token = .ok token' ↔
    Text.sameLetters token.tokenType entry.tokenType = true ∧
      ∃ seed, Seed.decode entry.serial entry.seed entry.inBase32 = .ok seed ∧
        token' = { token with
          seed
          description := entry.description
          active := entry.active
          passwordLength := entry.passwordLength
          counter := entry.counter
          maxFailures := entry.maxFailures
          failures := entry.failures
          rolloutState := entry.rolloutState
          realms := entry.realms
          info := entry.info } := by
  unfold applyTo
  split
  · next hsame =>
    cases Seed.decode entry.serial entry.seed entry.inBase32 with
    | error e => exact ⟨nofun, fun ⟨_, _, h, _⟩ => nomatch h⟩
    | ok seed =>
      refine ⟨fun h => ⟨hsame, seed, rfl, (Except.ok.inj h).symm⟩, ?_⟩
      rintro ⟨-, _, heq, rfl⟩
      cases heq
      rfl
  · next hother => exact ⟨nofun, fun h => absurd h.1 hother⟩

theorem agreesInIdentity_of_applyTo (h : entry.applyTo token = .ok token') :
    token'.AgreesInIdentity token := by
  obtain ⟨-, seed, -, rfl⟩ := applyTo_eq_ok_iff.1 h
  exact ⟨rfl, rfl, rfl, rfl, rfl⟩

theorem realms_of_applyTo (h : entry.applyTo token = .ok token') :
    token'.realms = entry.realms := by
  obtain ⟨-, seed, -, rfl⟩ := applyTo_eq_ok_iff.1 h
  rfl

/-- An entry makes the same of tokens that agree in what it does not describe. -/
theorem applyTo_congr (h : a.AgreesInIdentity b) : entry.applyTo a = entry.applyTo b := by
  obtain ⟨hserial, htype, howner, hrevoked, hlocked⟩ := h
  unfold applyTo
  rw [hserial, htype, howner, hrevoked, hlocked]

/-- Whether a store takes what an entry says about a token. -/
structure IsApplicable (store : Store) (entry : Entry) : Prop where
  exists_token : ∃ token, store.get? entry.serial = some token ∧
    Text.sameLetters token.tokenType entry.tokenType = true
  exists_seed : ∃ seed, Seed.decode entry.serial entry.seed entry.inBase32 = .ok seed
  knowsRealm : ∀ realm ∈ entry.realms, store.knowsRealm realm = true

theorem isOk_iff {ε α : Type} {x : Except ε α} : x.isOk = true ↔ ∃ a, x = .ok a := by
  cases x <;> simp [Except.toBool]

instance (store : Store) (entry : Entry) : Decidable (entry.IsApplicable store) :=
  decidable_of_iff
    ((∃ token ∈ store.get? entry.serial,
        Text.sameLetters token.tokenType entry.tokenType = true) ∧
      (Seed.decode entry.serial entry.seed entry.inBase32).isOk = true ∧
      ∀ realm ∈ entry.realms, store.knowsRealm realm = true)
    (by
      rw [isOk_iff]
      exact ⟨fun ⟨h, h', h''⟩ => ⟨h, h', h''⟩, fun ⟨h, h', h''⟩ => ⟨h, h', h''⟩⟩)

/-- Stores that differ only in what entries describe take the same entries. -/
theorem isApplicable_congr {a b : Store} (hrealms : b.realms = a.realms)
    (hidentity : ∀ serial, Option.Rel Token.AgreesInIdentity (b.get? serial) (a.get? serial)) :
    entry.IsApplicable b ↔ entry.IsApplicable a := by
  have hknows (realm : String) : b.knowsRealm realm = a.knowsRealm realm := by
    rw [Store.knowsRealm, hrealms, Store.knowsRealm]
  have htoken : (∃ token, b.get? entry.serial = some token ∧
        Text.sameLetters token.tokenType entry.tokenType = true) ↔
      ∃ token, a.get? entry.serial = some token ∧
        Text.sameLetters token.tokenType entry.tokenType = true := by
    have hrel := hidentity entry.serial
    generalize b.get? entry.serial = x, a.get? entry.serial = y at hrel ⊢
    cases hrel with
    | none => exact Iff.rfl
    | some h => simp [h.tokenType_eq]
  constructor
  · rintro ⟨h, hseed, hrealm⟩
    exact ⟨htoken.1 h, hseed, fun realm hmem => (hknows realm).symm.trans (hrealm realm hmem)⟩
  · rintro ⟨h, hseed, hrealm⟩
    exact ⟨htoken.2 h, hseed, fun realm hmem => (hknows realm).trans (hrealm realm hmem)⟩

/-- The last of the entries for a serial that a store takes. -/
def lastFor? (store : Store) (entries : List Entry) (serial : String) : Option Entry :=
  entries.reverse.find? fun entry => entry.serial = serial ∧ entry.IsApplicable store

theorem lastFor?_concat (store : Store) (entries : List Entry) (entry : Entry) (serial : String) :
    lastFor? store (entries ++ [entry]) serial =
      if entry.serial = serial ∧ entry.IsApplicable store then some entry
      else lastFor? store entries serial := by
  rw [lastFor?, List.reverse_append, List.reverse_singleton, List.singleton_append,
    List.find?_cons]
  by_cases h : entry.serial = serial ∧ entry.IsApplicable store
  · rw [decide_eq_true h, if_pos h]
  · rw [decide_eq_false h, if_neg h]
    rfl

end Entry

/-- A second application of the same entry has no effect. -/
theorem Token.Becomes.eq {token token' token'' : Token} {entry : Option Entry}
    (h : token.Becomes token' entry) (h' : token'.Becomes token'' entry) : token'' = token' := by
  cases entry with
  | none => exact h'
  | some entry =>
    have heq : entry.applyTo token' = entry.applyTo token :=
      Entry.applyTo_congr (Entry.agreesInIdentity_of_applyTo h)
    exact Except.ok.inj (h'.symm.trans (heq.trans h))

/-! ## One entry after the other -/

variable {store : Store} {entries : List Entry} {entry : Entry} {p : ImportProgress}

/-- An entry that the store does not take fails when it is applied. -/
theorem applyEntry_of_not_isApplicable (h : ¬entry.IsApplicable p.store) {token : Token}
    (hget : p.store.get? entry.serial = some token) : (applyEntry p entry token).store = p.store ∧
      (applyEntry p entry token).summary =
        { p.summary with failed := p.summary.failed ++ [entry.serial] } := by
  unfold applyEntry
  dsimp only
  cases happly : entry.applyTo token with
  | error e => exact ⟨rfl, rfl⟩
  | ok token' =>
    obtain ⟨hsame, seed, hseed, -⟩ := Entry.applyTo_eq_ok_iff.1 happly
    dsimp only [ImportProgress.save]
    rcases p.store.save_cases token' with ⟨realm, -, hsave⟩ | ⟨hfind, -⟩
    · rw [hsave]
      exact ⟨rfl, rfl⟩
    · have hknown := Store.find?_not_knowsRealm_eq_none_iff.1 hfind
      rw [Entry.realms_of_applyTo happly] at hknown
      exact absurd ⟨⟨token, hget, hsame⟩, ⟨seed, hseed⟩, hknown⟩ h

/-- An entry that the store does not take leaves the store as it is, and fails if the channel takes
the line on it. -/
theorem updateToken_of_not_isApplicable (h : ¬entry.IsApplicable p.store) :
    (updateToken p entry).store = p.store ∧ ((updateToken p entry).isBroken = false →
      (updateToken p entry).summary =
        { p.summary with failed := p.summary.failed ++ [entry.serial] }) := by
  have hwritten : ¬entry.IsApplicable (p.write (updateLine entry)).store := h
  constructor
  · rcases updateToken_cases p entry with heq | ⟨token, hget, heq⟩ <;> rw [heq]
    exact (applyEntry_of_not_isApplicable hwritten hget).1
  · intro hopen
    rw [(updateToken_eq hopen).2]
    cases hget : p.store.get? entry.serial with
    | none => rfl
    | some token => exact (applyEntry_of_not_isApplicable hwritten hget).2

/-- In memory an entry that the store takes is applied to its token. -/
theorem updateToken_of_isApplicable (h : entry.IsApplicable p.store)
    (hfile : p.store.file = none) (hopen : (updateToken p entry).isBroken = false) :
    ∃ token token', p.store.get? entry.serial = some token ∧
      entry.applyTo token = .ok token' ∧
      (updateToken p entry).store = { p.store with tokens := p.store.tokens.insert token' } ∧
      (updateToken p entry).summary =
        { p.summary with imported := p.summary.imported + 1 } := by
  obtain ⟨⟨token, hget, hsame⟩, ⟨seed, hseed⟩, hknows⟩ := h
  have happly := Entry.applyTo_eq_ok_iff.2 ⟨hsame, seed, hseed, rfl⟩
  refine ⟨token, _, hget, happly, ?_⟩
  generalize Token.mk .. = token' at happly
  rw [← Entry.realms_of_applyTo happly] at hknows
  have hsave : p.store.save token' =
      (.ok (), { p.store with tokens := p.store.tokens.insert token' }) := by
    rcases p.store.save_cases token' with ⟨realm, hfind, -⟩ | ⟨-, hattempted⟩
    · cases (Store.find?_not_knowsRealm_eq_none_iff.2 hknows).symm.trans hfind
    · exact hattempted.eq_of_file_eq_none hfile
  rw [(updateToken_eq hopen).2, hget]
  dsimp only [applyEntry]
  rw [happly]
  dsimp only [ImportProgress.save]
  rw [show (p.write _).store.save token' = _ from hsave]
  exact ⟨rfl, rfl⟩

/-- What updating a store from entries has made of it, and the summary of it. -/
structure Updated (store : Store) (entries : List Entry) (after : Store)
    (summary : ImportSummary) : Prop where
  users_eq : after.users = store.users
  realms_eq : after.realms = store.realms
  file_eq : after.file = store.file
  /-- No token comes or goes or changes in what entries do not describe. -/
  identity : ∀ serial, Option.Rel Token.AgreesInIdentity (after.get? serial) (store.get? serial)
  /-- The last entry that the store takes counts. -/
  becomes : ∀ serial, Option.Rel (Token.Becomes · · (Entry.lastFor? store entries serial))
    (store.get? serial) (after.get? serial)
  imported_eq : summary.imported = (entries.filter (·.IsApplicable store)).length
  failed_eq : summary.failed = (entries.filter (¬ ·.IsApplicable store)).map Entry.serial
  notParsed_eq : summary.notParsed = []

namespace Updated

variable {after after' : Store} {summary summary' : ImportSummary}

theorem isApplicable_iff (h : Updated store entries after summary) (entry : Entry) :
    entry.IsApplicable after ↔ entry.IsApplicable store :=
  Entry.isApplicable_congr h.realms_eq h.identity

theorem exists_original (h : Updated store entries after summary) {serial : String}
    {token : Token} (hget : after.get? serial = some token) :
    ∃ original, store.get? serial = some original ∧ token.AgreesInIdentity original := by
  have hidentity := h.identity serial
  rw [hget] at hidentity
  generalize store.get? serial = original at hidentity ⊢
  cases hidentity with
  | some hagree => exact ⟨_, rfl, hagree⟩

/-- An update from no entries does nothing. -/
theorem refl (store : Store) : Updated store [] store {} where
  users_eq := rfl
  realms_eq := rfl
  file_eq := rfl
  identity serial := by
    cases store.get? serial with
    | none => exact .none
    | some token => exact .some ⟨rfl, rfl, rfl, rfl, rfl⟩
  becomes serial := by
    cases store.get? serial with
    | none => exact .none
    | some token => exact .some rfl
  imported_eq := rfl
  failed_eq := rfl
  notParsed_eq := rfl

/-- One more entry, which the store takes. -/
theorem apply (h : Updated store entries after summary) (happlicable : entry.IsApplicable store)
    {token token' : Token} (hget : after.get? entry.serial = some token)
    (happly : entry.applyTo token = .ok token') :
    Updated store (entries ++ [entry]) { after with tokens := after.tokens.insert token' }
      { summary with imported := summary.imported + 1 } := by
  have hserial : token'.serial = entry.serial :=
    (Entry.agreesInIdentity_of_applyTo happly).serial_eq.trans (after.tokens.keyed _ _ hget)
  have hget' (serial : String) :
      Store.get? { after with tokens := after.tokens.insert token' } serial =
        if entry.serial = serial then some token' else after.get? serial := by
    rw [Store.get?, TokenTable.get?_insert, hserial]
    rfl
  obtain ⟨original, horiginal, hagree⟩ := h.exists_original hget
  refine ⟨h.users_eq, h.realms_eq, h.file_eq, fun serial => ?_, fun serial => ?_, ?_, ?_,
    h.notParsed_eq⟩
  · rw [hget']
    split
    · next heq =>
      rw [← heq, horiginal]
      exact .some ((Entry.agreesInIdentity_of_applyTo happly).trans hagree)
    · exact h.identity serial
  · rw [hget', Entry.lastFor?_concat]
    by_cases heq : entry.serial = serial
    · rw [if_pos heq, if_pos ⟨heq, happlicable⟩, ← heq, horiginal]
      exact .some ((Entry.applyTo_congr hagree).symm.trans happly)
    · rw [if_neg heq, if_neg fun hboth => heq hboth.1]
      exact h.becomes serial
  · simp [List.filter_append, happlicable, h.imported_eq]
  · simp [List.filter_append, happlicable, h.failed_eq]

/-- One more entry, which the store does not take. -/
theorem refuse (h : Updated store entries after summary) (hnot : ¬entry.IsApplicable store) :
    Updated store (entries ++ [entry]) after
      { summary with failed := summary.failed ++ [entry.serial] } := by
  have hlast (serial : String) : Entry.lastFor? store (entries ++ [entry]) serial =
      Entry.lastFor? store entries serial := by
    rw [Entry.lastFor?_concat, if_neg fun hboth => hnot hboth.2]
  refine ⟨h.users_eq, h.realms_eq, h.file_eq, h.identity, fun serial => ?_, ?_, ?_,
    h.notParsed_eq⟩
  · rw [hlast]
    exact h.becomes serial
  · simp [List.filter_append, hnot, h.imported_eq]
  · simp [List.filter_append, hnot, h.failed_eq]

/-- One more entry. -/
theorem updateToken (h : Updated store entries p.store p.summary) (hfile : store.file = none)
    (hopen : (updateToken p entry).isBroken = false) :
    Updated store (entries ++ [entry]) (updateToken p entry).store
      (updateToken p entry).summary := by
  by_cases happlicable : entry.IsApplicable store
  · obtain ⟨token, token', hget, happly, hstore, hsummary⟩ := updateToken_of_isApplicable
      ((h.isApplicable_iff entry).2 happlicable) (h.file_eq.trans hfile) hopen
    rw [hstore, hsummary]
    exact h.apply happlicable hget happly
  · obtain ⟨hstore, hsummary⟩ := updateToken_of_not_isApplicable
      (mt (h.isApplicable_iff entry).1 happlicable)
    rw [hstore, hsummary hopen]
    exact h.refuse happlicable

/-- An update from entries, one after the other, as long as the channel takes the lines on them. -/
theorem foldl_updateToken (hfile : store.file = none) {transcript : Transcript}
    {entries : List Entry}
    (hopen : (entries.foldl TokenInventory.updateToken { store, transcript }).isBroken = false) :
    Updated store entries (entries.foldl TokenInventory.updateToken { store, transcript }).store
      (entries.foldl TokenInventory.updateToken { store, transcript }).summary := by
  -- What the last entry does depends on the ones before it, so the list grows at its end.
  induction entries using List.reverseRecOn with
  | nil => exact refl store
  | append_singleton entries entry ih =>
    rw [List.foldl_concat] at hopen ⊢
    exact (ih (updateToken_eq hopen).1).updateToken hfile hopen

/-- A second update from the same entries finds nothing to change. -/
theorem again (h : Updated store entries after summary)
    (h' : Updated after entries after' summary') : after' = after ∧ summary' = summary := by
  have hlast (serial : String) :
      Entry.lastFor? after entries serial = Entry.lastFor? store entries serial := by
    unfold Entry.lastFor?
    simp only [h.isApplicable_iff]
  have hget (serial : String) : after'.get? serial = after.get? serial := by
    have hbecomes := h.becomes serial
    have hbecomes' := h'.becomes serial
    rw [hlast] at hbecomes'
    generalize store.get? serial = x, after.get? serial = y, after'.get? serial = z at *
    cases hbecomes with
    | none => cases hbecomes'; rfl
    | some hfirst =>
      cases hbecomes' with
      | some hsecond => rw [hfirst.eq hsecond]
  refine ⟨Store.ext_get? h'.users_eq h'.realms_eq h'.file_eq hget, ?_⟩
  obtain ⟨imported, failed, notParsed⟩ := summary
  obtain ⟨imported', failed', notParsed'⟩ := summary'
  have himported := h.imported_eq
  have hfailed := h.failed_eq
  have himported' := h'.imported_eq
  have hfailed' := h'.failed_eq
  simp only [h.isApplicable_iff] at himported' hfailed'
  cases himported.trans himported'.symm
  cases hfailed.trans hfailed'.symm
  cases h.notParsed_eq.trans h'.notParsed_eq.symm
  rfl

/-- Every entry is counted. -/
theorem counted (h : Updated store entries after summary) :
    summary.imported + summary.failed.length = entries.length := by
  rw [h.imported_eq, h.failed_eq, List.length_map]
  simpa [List.countP_eq_length_filter] using
    (List.length_eq_countP_add_countP (·.IsApplicable store) (l := entries)).symm

end Updated

/-! ## The whole document -/

/-- A store in memory is updated from the entries of a document that was read. -/
theorem updateTokens_of_readAll {text : String} (hfile : store.file = none)
    (hread : Entry.readAll text = .ok entries) (path : String) :
    let r := updateTokens ⟨path, .ok text⟩ { store := store }
    ∃ summary, r.1 = .ok summary ∧ Updated store entries r.2.store summary := by
  have hstart : ({ store := store } : ImportProgress).HasOpenChannel := ⟨rfl, rfl⟩
  have hend := ((hstart.write [Output.noteLine "Loading YAML data. This may take a while."])
    |>.foldl_updateToken entries).isBroken_eq
  unfold updateTokens ImportFile.text
  dsimp only
  rw [hread]
  dsimp only
  rw [if_neg (Bool.eq_false_iff.1 hend)]
  exact ⟨_, rfl, Updated.foldl_updateToken hfile hend⟩

/-- An update of a store in memory gives every token what the last entry for it says that the store
takes, and nothing else: no token comes or goes, and the other entries fail without an effect. A
second update from the same document changes nothing and gives the same summary. -/
theorem updateTokens_updateTokens (path : String) {text : String} (hfile : store.file = none)
    (hread : Entry.readAll text = .ok entries) :
    let r := updateTokens ⟨path, .ok text⟩ { store := store }
    let again := updateTokens ⟨path, .ok text⟩ { store := r.2.store }
    ∃ summary, r.1 = .ok summary ∧ Updated store entries r.2.store summary ∧
      summary.imported + summary.failed.length = entries.length ∧
      (∀ transcript before entry after, entries = before ++ entry :: after →
        ¬entry.IsApplicable store →
        let p := before.foldl updateToken { store, transcript }
        (updateToken p entry).store = p.store) ∧
      again.1 = .ok summary ∧ again.2.store = r.2.store := by
  intro r again
  obtain ⟨summary, hresult, hupdated⟩ := updateTokens_of_readAll hfile hread path
  obtain ⟨summary', hresult', hupdated'⟩ :=
    updateTokens_of_readAll (hupdated.file_eq.trans hfile) hread path
  obtain ⟨hsame, rfl⟩ := hupdated.again hupdated'
  refine ⟨summary', hresult, hupdated, hupdated.counted, fun transcript before entry _ _ hnot => ?_,
    hresult', hsame⟩
  intro p
  cases hopen : p.isBroken with
  | true => rw [updateToken_of_isBroken hopen]
  | false =>
    have hbefore := Updated.foldl_updateToken hfile hopen
    exact (updateToken_of_not_isApplicable (mt (hbefore.isApplicable_iff entry).1 hnot)).1

/-- Of two entries for one token the first is applied: the second puts the token into an unknown
realm. -/
theorem updateTokens_updateTokens_refused :
    let text := "- serial: A\n  type: HOTP\n- serial: A\n  type: hotp\n  realms: [r]"
    let store : Store :=
      { tokens := TokenTable.empty.insert { serial := "A", tokenType := "hotp" }
        users := []
        realms := .empty }
    (updateTokens ⟨"tokens.yaml", .ok text⟩
      { store := (updateTokens ⟨"tokens.yaml", .ok text⟩ { store := store }).2.store }).1 =
        .ok { imported := 1, failed := ["A"] } := by
  intro text store
  have hcounts : (Entry.readAll text).map (fun entries =>
      ((entries.filter (·.IsApplicable store)).length,
        (entries.filter (¬ ·.IsApplicable store)).map Entry.serial)) = .ok (1, ["A"]) := by
    decide +kernel
  have hfile : store.file = none := rfl
  cases hread : Entry.readAll text with
  | error e =>
    rw [hread] at hcounts
    cases hcounts
  | ok entries =>
    rw [hread] at hcounts
    obtain ⟨himported, hfailed⟩ := Prod.mk.inj (Except.ok.inj hcounts)
    obtain ⟨⟨_, _, _⟩, -, hupdated, -, -, hagain, -⟩ :=
      updateTokens_updateTokens "tokens.yaml" hfile hread
    cases hupdated.imported_eq.trans himported
    cases hupdated.failed_eq.trans hfailed
    cases hupdated.notParsed_eq
    exact hagain

end TokenInventory
