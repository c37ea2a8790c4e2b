import TokenInventory.Proofs.Exchange.Seed
import TokenInventory.Proofs.Json.Record
import TokenInventory.Proofs.Run.Calls
import TokenInventory.Proofs.Run.Update

/-!
# Restoring exported tokens

Runs that take no token away leave the serials and types of the tokens and the known realms alone
(`Store.Retains`), which is all that decides whether an exported entry can be applied. So the
entries of all tokens of a store in memory can be applied after any such runs, and give the tokens
back what was exported of them (`updateTokens_of_exported`).
-/

namespace TokenInventory

/-! ## Runs that take no token away -/

/-- Whether an operation is a run that takes no token away. -/
def Operation.IsRetainingRun : Operation → Prop
  | .run task _ _ _ => task.action ≠ .change .delete
  | _ => False

/-- Whether a store has the tokens of another one by their serials and types, and its realms. -/
structure Store.Retains (store later : Store) : Prop where
  file_eq_none_iff : later.file = none ↔ store.file = none
  knowsRealm_eq : ∀ realm, later.knowsRealm realm = store.knowsRealm realm
  tokenType_eq : ∀ serial,
    (later.get? serial).map Token.tokenType = (store.get? serial).map Token.tokenType

namespace Change

variable {c : Change} {token saved : Token}

theorem tokenType_of_intended (h : c.intended token = some saved) :
    saved.tokenType = token.tokenType := by
  cases c <;> cases h <;> rfl

theorem eq_delete_of_remove (h : (c.plan token).effect = .remove) : c = .delete := by
  have hnone : c.intended token = none := by
    rw [← c.resultOn_effect, h]
    rfl
  cases c <;> first | rfl | cases hnone

end Change

namespace Store.Retains

variable {store later : Store}

/-- A call that carries a change out. -/
theorem apply (h : store.Retains later) {c : Change} (hc : c ≠ .delete) {call : StoreCall}
    (hmakes : c.Makes later call) : store.Retains (call.apply later).2 := by
  refine ⟨(call.file_apply_eq_none_iff later).trans h.file_eq_none_iff, fun realm => ?_,
    fun serial => ?_⟩
  · rw [call.knowsRealm_apply, h.knowsRealm_eq]
  · rw [← h.tokenType_eq]
    cases hmakes with
    | remove _ heffect => exact absurd (Change.eq_delete_of_remove heffect) hc
    | @save token saved hget heffect =>
      rcases (StoreCall.save saved).apply_get?_cases later with hsame | ⟨-, hchanged⟩
      · rw [hsame]
      · rw [hchanged]
        split
        · next hserial =>
          have hserial : saved.serial = serial := hserial
          rw [← hserial, Change.serial_of_save heffect, hget]
          exact congrArg some (Change.tokenType_of_intended (c.intended_of_save heffect))
        · rfl

theorem applyAll (store : Store) {operations : List Operation}
    (hruns : ∀ operation ∈ operations, operation.IsRetainingRun) :
    store.Retains (Operation.applyAll store operations) := by
  refine Operation.invariant_applyAll (fun operation hoperation live call hmakes h => ?_)
    ⟨Iff.rfl, fun _ => rfl, fun _ => rfl⟩
  have hrun := hruns operation hoperation
  cases hmakes with
  | run hmakes =>
    obtain ⟨c, haction, hmakes⟩ := hmakes
    exact h.apply (fun hdelete => hrun (haction.trans (congrArg Action.change hdelete))) hmakes
  | call | update _ _ _ | load _ => exact hrun.elim

end Store.Retains

/-! ## Exported entries -/

/-- What a token becomes when it is given back what was exported of it. -/
def Token.restored (original changed : Token) : Token :=
  { changed with
    seed := Text.lowered original.seed
    description := original.description
    active := original.active
    passwordLength := original.passwordLength
    counter := original.counter
    maxFailures := original.maxFailures
    failures := original.failures
    rolloutState := original.rolloutState
    realms := original.realms
    info := original.info }

namespace Entry

variable {token : Token} {entry : Entry} {entries : List Entry} {store later : Store}

/-- Whether an entry gives a token back what was exported of it, whatever else has become of the
token. -/
structure Restores (token : Token) (entry : Entry) : Prop where
  serial_eq : entry.serial = token.serial
  realms_eq : entry.realms = token.realms
  applyTo_eq : ∀ changed : Token, changed.tokenType = token.tokenType →
    entry.applyTo changed = .ok (token.restored changed)

/-- A token whose seed has bytes is exported, and the entry gives back what was exported. -/
theorem exists_restores {seed : List UInt8} (hseed : Seed.bytes token = .ok seed)
    (owner : Option User) (inBase32 : Bool) :
    ∃ entry, ofToken token owner inBase32 = .ok entry ∧ entry.Restores token := by
  have hencode := Seed.encode_of_bytes hseed inBase32
  rw [ofToken, hencode]
  refine ⟨_, rfl, rfl, rfl, fun changed htype => ?_⟩
  refine applyTo_eq_ok_iff.2 ⟨?_, _, Seed.decode_of_encode hseed hencode _, rfl⟩
  rw [htype]
  exact beq_self_eq_true _

theorem Restores.isApplicable (h : entry.Restores token) (hretains : store.Retains later)
    (hget : store.get? token.serial = some token)
    (hknown : ∀ realm ∈ token.realms, store.knowsRealm realm = true) :
    entry.IsApplicable later := by
  have htype := hretains.tokenType_eq token.serial
  rw [hget] at htype
  obtain ⟨changed, hchanged, htype⟩ := Option.map_eq_some_iff.1 htype
  obtain ⟨hsame, seed, hseed, -⟩ := applyTo_eq_ok_iff.1 (h.applyTo_eq changed htype)
  refine ⟨⟨changed, h.serial_eq ▸ hchanged, hsame⟩, ⟨seed, hseed⟩, fun realm hmem => ?_⟩
  rw [hretains.knowsRealm_eq]
  exact hknown realm (h.realms_eq ▸ hmem)

/-- An entry that the store takes counts if there is no other one with its serial. -/
theorem lastFor?_of_mem (hnodup : (entries.map Entry.serial).Nodup) (hmem : entry ∈ entries)
    (happlicable : entry.IsApplicable store) :
    lastFor? store entries entry.serial = some entry := by
  cases hlast : lastFor? store entries entry.serial with
  | none =>
    rw [lastFor?, List.find?_eq_none] at hlast
    exact absurd (hlast entry (List.mem_reverse.2 hmem)) (by simp [happlicable])
  | some found =>
    have hfound := List.find?_some hlast
    rw [decide_eq_true_iff] at hfound
    have hfoundMem : found ∈ entries := List.mem_reverse.1 (List.mem_of_find?_eq_some hlast)
    rw [List.inj_on_of_nodup_map hnodup hfoundMem hmem hfound.1]

end Entry

/-- If the store takes every entry, all of them are imported. -/
theorem Updated.summary_eq {store after : Store} {entries : List Entry} {summary : ImportSummary}
    (h : Updated store entries after summary)
    (happlicable : ∀ entry ∈ entries, entry.IsApplicable store) :
    summary = { imported := entries.length, failed := [], notParsed := [] } := by
  have hall : entries.filter (·.IsApplicable store) = entries :=
    List.filter_eq_self.2 fun entry hmem => decide_eq_true (happlicable entry hmem)
  have hnone : entries.filter (¬ ·.IsApplicable store) = [] :=
    List.filter_eq_nil_iff.2 fun entry hmem => by simp [happlicable entry hmem]
  obtain ⟨imported, failed, notParsed⟩ := summary
  have himported := h.imported_eq
  have hfailed := h.failed_eq
  rw [hall] at himported
  rw [hnone] at hfailed
  cases himported
  cases hfailed
  cases h.notParsed_eq
  rfl

/-- Tokens whose last entries restore them get back what was exported of them. -/
theorem Updated.get?_of_restores {store later after : Store} {entries : List Entry}
    {summary : ImportSummary} (h : Updated later entries after summary)
    (hretains : store.Retains later)
    (hlast : ∀ original ∈ store.tokens.toList, ∃ entry : Entry, entry.Restores original ∧
      Entry.lastFor? later entries original.serial = some entry) (serial : String) :
    match store.get? serial, later.get? serial with
    | some original, some changed => after.get? serial = some (original.restored changed)
    | none, none => after.get? serial = none
    | _, _ => False := by
  have htype := hretains.tokenType_eq serial
  have hbecomes := h.becomes serial
  cases hget : store.get? serial with
  | none =>
    rw [hget, Option.map_none, Option.map_eq_none_iff] at htype
    rw [htype] at hbecomes ⊢
    generalize after.get? serial = found at hbecomes
    cases hbecomes
    rfl
  | some original =>
    obtain ⟨hmem, rfl⟩ := store.tokens.get?_eq_some_iff.1 hget
    obtain ⟨entry, hrestores, hentry⟩ := hlast original hmem
    rw [hget] at htype
    obtain ⟨changed, hchanged, htype⟩ := Option.map_eq_some_iff.1 htype
    rw [hchanged, hentry] at hbecomes
    rw [hchanged]
    generalize after.get? original.serial = found at hbecomes
    cases hbecomes with
    | some happly =>
      have hrestored := hrestores.applyTo_eq changed htype
      exact congrArg some (Except.ok.inj (happly.symm.trans hrestored))

/-- The entries of all tokens of a store in memory, whose seeds have bytes and whose realms are
known, give every token back what was exported of it, after any runs that take no token away: all
are imported, and what entries do not describe stays as the runs have left it. -/
theorem updateTokens_of_exported {store : Store} (hfile : store.file = none)
    (hseeds : ∀ token ∈ store.tokens.toList, ∃ seed, Seed.bytes token = .ok seed)
    (hknown : ∀ token ∈ store.tokens.toList, ∀ realm ∈ token.realms,
      store.knowsRealm realm = true)
    (owner : Token → Option User) (inBase32 : Bool) {runs : List Operation}
    (hruns : ∀ run ∈ runs, run.IsRetainingRun) :
    let later := Operation.applyAll store runs
    ∃ entries, store.tokens.toList.mapM
        (fun token => Entry.ofToken token (owner token) inBase32) = .ok entries ∧
      ∀ path text, Entry.readAll text = .ok entries →
        let r := updateTokens ⟨path, .ok text⟩ { store := later }
        r.1 = .ok { imported := store.tokens.toList.length, failed := [], notParsed := [] } ∧
        ∀ serial, match store.get? serial, later.get? serial with
          | some original, some changed =>
            r.2.store.get? serial = some (original.restored changed)
          | none, none => r.2.store.get? serial = none
          | _, _ => False := by
  intro later
  have hretains : store.Retains later := Store.Retains.applyAll store hruns
  -- `entry` has to be something for tokens that are not in the store, too.
  have : Nonempty Entry := ⟨{ serial := "", tokenType := "" }⟩
  choose! seed hseed using hseeds
  have hexport : ∀ token ∈ store.tokens.toList, ∃ entry,
      Entry.ofToken token (owner token) inBase32 = .ok entry ∧ entry.Restores token :=
    fun token hmem => Entry.exists_restores (hseed token hmem) _ _
  choose! entry hentry hrestores using hexport
  refine ⟨store.tokens.toList.map entry, mapM_eq_pure_map hentry, fun path text hread => ?_⟩
  obtain ⟨summary, hresult, hupdated⟩ :=
    updateTokens_of_readAll (hretains.file_eq_none_iff.2 hfile) hread path
  have happlicable : ∀ e ∈ store.tokens.toList.map entry, e.IsApplicable later :=
    List.forall_mem_map.2 fun token hmem => (hrestores token hmem).isApplicable hretains
      (store.tokens.mem_toList_iff.1 hmem) (hknown token hmem)
  have hserials : (store.tokens.toList.map entry).map Entry.serial =
      store.tokens.toList.map Token.serial := by
    rw [List.map_map]
    exact List.map_congr_left fun token hmem => (hrestores token hmem).serial_eq
  have hnodup : ((store.tokens.toList.map entry).map Entry.serial).Nodup := by
    rw [hserials]
    exact store.tokens.nodup_map_serial
  refine ⟨hresult.trans (congrArg Except.ok ?_),
    hupdated.get?_of_restores hretains fun original hmem => ?_⟩
  · rw [hupdated.summary_eq happlicable, List.length_map]
  · have hlast := Entry.lastFor?_of_mem hnodup (List.mem_map_of_mem hmem)
      (happlicable _ (List.mem_map_of_mem hmem))
    rw [(hrestores original hmem).serial_eq] at hlast
    exact ⟨entry original, hrestores original hmem, hlast⟩

deriving instance DecidableEq for Entry

/-- A token moves, loses its owner and is disabled before it is restored. -/
theorem updateTokens_of_exported_one_token :
    let store : Store :=
      { tokens := TokenTable.empty.insert
          (Token.assignedTo ⟨"1", "r", "corp"⟩
            { serial := "H1", tokenType := "HOTP", description := "desk", counter := -3
              seed := "0A" })
        users := []
        realms := .ofList ["corp", "home"] }
    let around : Circumstances := ⟨.universal, ⟨0, 0⟩⟩
    let entropy : Entropy := ⟨fun _ => 0, 0⟩
    let runs : List Operation :=
      [.run { action := .change (.setRealms ["home"]) } around entropy {},
        .run { action := .change .unassign } around entropy {},
        .run { action := .change .disable } around entropy {}]
    let later := Operation.applyAll store runs
    (later.get? "H1").map (fun token => (token.realms, token.owner, token.active)) =
        some (["home", "corp"], none, false) ∧
      ∃ entries, store.tokens.toList.mapM (fun token => Entry.ofToken token none true) =
          .ok entries ∧
        let text := String.join (entries.map Entry.write)
        let r := updateTokens ⟨"tokens.yaml", .ok text⟩ { store := later }
        r.1 = .ok { imported := 1, failed := [], notParsed := [] } ∧
        ∀ serial, match store.get? serial, later.get? serial with
          | some original, some changed =>
            r.2.store.get? serial = some (original.restored changed)
          | none, none => r.2.store.get? serial = none
          | _, _ => False := by
  intro store around entropy runs later
  have hseeds : ∀ token ∈ store.tokens.toList, ∃ seed, Seed.bytes token = .ok seed := by
    have : store.tokens.toList.all (fun token => (Seed.bytes token).isOk) = true := by
      decide +kernel
    exact fun token hmem => Entry.isOk_iff.1 (List.all_eq_true.1 this token hmem)
  have hknown : ∀ token ∈ store.tokens.toList, ∀ realm ∈ token.realms,
      store.knowsRealm realm = true := by decide +kernel
  have hread : ((store.tokens.toList.mapM fun token => Entry.ofToken token none true).bind
      fun entries => Entry.readAll (String.join (entries.map Entry.write))) =
        store.tokens.toList.mapM fun token => Entry.ofToken token none true := by decide +kernel
  have hruns : ∀ run ∈ runs, run.IsRetainingRun := by simp [runs, Operation.IsRetainingRun]
  obtain ⟨entries, hentries, hrestored⟩ :=
    updateTokens_of_exported rfl hseeds hknown (fun _ => none) true hruns
  rw [hentries] at hread
  exact ⟨by decide +kernel, entries, hentries, hrestored "tokens.yaml" _ hread⟩

end TokenInventory
