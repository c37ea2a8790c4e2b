import TokenInventory.Proofs.Run.Mutation
import TokenInventory.Proofs.Store.Document

/-!
# Failures without a file

The parameters of a change are checked before a run, but a token is saved as a whole, and a document
may hold tokens in realms that nobody knows. In a store that is not kept in a file this is all that
can make a valid change fail: it fails for exactly those tokens that it has to save in an unknown
realm (`Task.run_change_inMemory`), as one that is disabled in such a realm does
(`Task.run_disable_unknownRealm`). New realms are known, but that of the owner is added to them; it
is unknown for orphaned tokens only (`Change.isOrphaned_of_isHindered`).
-/

namespace TokenInventory

/-- Whether a token lies in a realm that a store does not know. -/
def Token.LiesOutside (token : Token) (store : Store) : Prop :=
  ∃ realm ∈ token.realms, store.knowsRealm realm = false

namespace Change

variable {c : Change} {store : Store} {token : Token} {realms : List String}

/-- Whether a change has to save a token in a realm that is not known. -/
def IsHindered (store : Store) (token : Token) : Change → Prop
  | setRealms _ => ∃ owner ∈ token.owner, store.knowsRealm owner.realm = false
  | disable => token.active = true ∧ token.LiesOutside store
  | delete => False
  | unassign => token.isAssigned = true ∧ token.LiesOutside store
  | setDescription _ => token.LiesOutside store
  | setInfo _ => token.LiesOutside store
  | deleteInfo _ => token.LiesOutside store

/-- New realms that are not refused are known. -/
theorem knowsRealm_of_refusal?_eq_none (h : (setRealms realms).refusal? store = none) :
    ∀ realm ∈ realms, store.knowsRealm realm = true := by
  cases realms with
  | nil => cases h
  | cons realm realms =>
    have hfind : (realm :: realms).find? (fun realm => !store.knowsRealm realm) = none :=
      Option.map_eq_none_iff.1 h
    simpa using hfind

/-- The plan of a valid change is hindered exactly if the change is. -/
theorem isHindered_effect_iff (hvalid : c.refusal? store = none) :
    (c.plan token).effect.IsHindered store ↔ c.IsHindered store token := by
  cases c with
  | setRealms realms =>
    have hknown := knowsRealm_of_refusal?_eq_none hvalid
    simp only [plan, Effect.IsHindered, IsHindered, realmsWithOwner_eq, List.mem_append,
      List.mem_filter, List.mem_map, Option.mem_toList, decide_eq_true_iff]
    constructor
    -- The given realms have been checked, so only that of the owner is left.
    · rintro ⟨realm, hmem | ⟨⟨owner, howner, rfl⟩, -⟩, hunknown⟩
      · cases (hknown realm hmem).symm.trans hunknown
      · exact ⟨owner, howner, hunknown⟩
    · rintro ⟨owner, howner, hunknown⟩
      refine ⟨owner.realm, .inr ⟨⟨owner, howner, rfl⟩, fun hmem => ?_⟩, hunknown⟩
      cases (hknown _ hmem).symm.trans hunknown
  | disable => cases hactive : token.active <;> simp [plan, IsHindered, Effect.IsHindered, hactive,
      Token.LiesOutside]
  | delete => rfl
  | unassign => cases hassigned : token.isAssigned <;> simp [plan, IsHindered, Effect.IsHindered,
      hassigned, Token.LiesOutside]
  | setDescription description => rfl
  | setInfo pairs =>
    simp only [plan, Effect.IsHindered, Token.foldl_withInfo, IsHindered, Token.LiesOutside]
  | deleteInfo keys => rfl

/-- Only tokens whose owner is not in the directory can be hindered from getting new realms. -/
theorem isOrphaned_of_isHindered {document : Document} {file : Option BackingFile}
    (hopen : Store.ofDocument document file = .ok store)
    (h : (setRealms realms).IsHindered store token) : token.isOrphaned store.users = true := by
  obtain ⟨owner, howner, hunknown⟩ := h
  rw [Token.isOrphaned, Option.mem_def.1 howner]
  dsimp only
  rw [Option.isNone_iff_eq_none, User.resolve?, List.find?_eq_none]
  intro user huser hnamed
  have hrealm : user.realm = owner.realm := by
    simp only [User.isNamedBy, Bool.and_eq_true, beq_iff_eq] at hnamed
    exact hnamed.2
  have hknown := Store.knowsUserRealms_of_ofDocument hopen user huser
  rw [hrealm, hunknown] at hknown
  cases hknown

end Change

namespace Accounts

variable {c : Change} {before after : Store} {n : Nat} {token : Token} {outcome : Outcome}

/-- Without a file a change fails exactly if it is hindered. -/
theorem isFailure_iff (h : Accounts c before n after token outcome) (hfile : before.file = none) :
    outcome.isFailure = true ↔ (c.plan token).effect.IsHindered before := by
  have hfree := (c.plan token).effect.error?_eq_none_iff hfile n
  cases h with
  | succeeded _ hnone => exact iff_of_false (by simp [Outcome.isFailure]) (hfree.1 hnone)
  | failed e _ hsome =>
    rw [← not_iff_not, ← hfree, hsome]
    simp [Outcome.isFailure]

theorem isSuccess_iff (h : Accounts c before n after token outcome) :
    outcome.isSuccess = true ↔ ¬outcome.isFailure = true := by
  cases h <;> simp [Outcome.isSuccess, Outcome.isFailure]

end Accounts

/-- No failure is counted if and only if no token has one. -/
theorem Tally.failed_eq_zero_iff {P : Token → Prop} {tokens : List Token}
    {outcomes : List Outcome}
    (h : List.Forall₂ (fun token outcome => outcome.isFailure = true ↔ P token) tokens outcomes) :
    (ofOutcomes outcomes).failed = 0 ↔ ∀ token ∈ tokens, ¬P token := by
  rw [ofOutcomes, List.countP_eq_zero]
  induction h with
  | nil => simp
  | cons hfirst _ ih => rw [List.forall_mem_cons, List.forall_mem_cons, ih, hfirst]

theorem Store.file_of_ofDocument {document : Document} {file : Option BackingFile} {store : Store}
    (h : ofDocument document file = .ok store) : store.file = file := by
  unfold ofDocument at h
  split at h
  · cases h
  · cases h
    rfl

namespace Task

variable {task : Task} {c : Change} {around : Circumstances} {entropy : Entropy}
  {transcript : Transcript} {store : Store}

theorem refusal?_of_validate (haction : task.action = .change c)
    (hvalid : task.action.validate store = .ok ()) : c.refusal? store = none := by
  rw [haction, Action.validate] at hvalid
  split at hvalid
  · cases hvalid
  · assumption

/-- A loop that ends early has reached beyond the calendar or broken the channel. -/
theorem Loop.error_cases {scan : Scan} {p : Progress} {r : Except RunError Unit × Progress}
    (h : task.Loop around scan p r) {e : RunError} (herror : r.1 = .error e) :
    e = .beyondCalendar ∨ e = .brokenChannel ∧ r.2.isBroken = true := by
  induction h with
  | ended => cases herror
  | beyond => exact .inl (Except.error.inj herror).symm
  | broken _ _ hbroken => exact .inr ⟨(Except.error.inj herror).symm, hbroken⟩
  | more _ _ _ _ ih => exact ih herror

theorem run_error_cases (hvalid : task.action.validate store = .ok ()) {e : RunError}
    (herror : (task.run around entropy transcript store).1 = .error e) :
    e = .beyondCalendar ∨
      e = .brokenChannel ∧ (task.run around entropy transcript store).2.isBroken = true := by
  rw [run_of_validate_ok hvalid] at herror ⊢
  have hloop := task.loop_run around entropy transcript store
  generalize task.proceed around (store.size + 2) task.scan
    (task.opening entropy transcript store) = r at hloop herror ⊢
  obtain ⟨e' | _, p⟩ := r
  · obtain rfl : e' = e := Except.error.inj herror
    exact hloop.error_cases rfl
  · unfold ofLoop conclude at herror ⊢
    dsimp only at herror ⊢
    split_ifs at herror ⊢ with hbroken
    · exact .inr ⟨(Except.error.inj herror).symm, hbroken⟩

/-- A run of a valid change in a store that is opened in memory ends beyond the calendar, or it
succeeds for all selected tokens but those that the change has to save in an unknown realm. -/
theorem run_change_inMemory {document : Document} (hopen : Store.inMemory document = .ok store)
    (haction : task.action = .change c) (hvalid : task.action.validate store = .ok ())
    (hwriter : (task.run around entropy transcript store).2.isBroken = false) :
    let r := task.run around entropy transcript store
    r.1 = .error .beyondCalendar ∨
      ∃ report tokens, r.1 = .ok report ∧
        task.select? around store = some (tokens.map Token.serial) ∧
        (∀ token ∈ tokens, store.get? token.serial = some token) ∧
        List.Forall₂ (fun token outcome => outcome.serial = token.serial ∧
          (outcome.isFailure = true ↔ c.IsHindered store token) ∧
          (outcome.isSuccess = true ↔ ¬c.IsHindered store token)) tokens r.2.outcomes.reverse ∧
        (report.tally.failed = 0 ↔ ∀ token ∈ tokens, ¬c.IsHindered store token) := by
  intro r
  have hfile : store.file = none := Store.file_of_ofDocument hopen
  have hrefusal : c.refusal? store = none := refusal?_of_validate haction hvalid
  cases hresult : r.1 with
  | error e =>
    rcases run_error_cases hvalid hresult with rfl | ⟨-, hbroken⟩
    · exact .inl rfl
    · cases hwriter.symm.trans hbroken
  | ok report =>
    obtain ⟨tokens, hchosen⟩ := exists_chosen? hvalid hresult
    obtain ⟨outcomes, report', hreport, htally, -, hchanged⟩ :=
      exists_changed_of_run haction hvalid hchosen hwriter
    cases hresult.symm.trans hreport
    have houtcomes : r.2.outcomes.reverse = outcomes := by
      rw [hchanged.outcomes_eq, List.reverse_append, List.reverse_reverse]
      rfl
    have haccounts : List.Forall₂ (fun token outcome => outcome.serial = token.serial ∧
        (outcome.isFailure = true ↔ c.IsHindered store token) ∧
        (outcome.isSuccess = true ↔ ¬c.IsHindered store token)) tokens outcomes := by
      refine hchanged.accounts.forall₂.imp fun token outcome ⟨_, h⟩ => ?_
      have hfailure := (h.isFailure_iff hfile).trans (Change.isHindered_effect_iff hrefusal)
      exact ⟨h.serial_eq, hfailure, h.isSuccess_iff.trans (not_congr hfailure)⟩
    refine .inr ⟨report, tokens, rfl, ?_, fun token ht => ((mem_of_chosen? hchosen).1 ht).1,
      houtcomes ▸ haccounts, ?_⟩
    · rw [select?_eq, hchosen]
      rfl
    · rw [htally]
      exact Tally.failed_eq_zero_iff (haccounts.imp fun _ _ h => h.2.1)

/-- A valid change in memory that fails: nobody knows the realm of the token, and disabling it
saves the token as a whole. -/
theorem run_disable_unknownRealm :
    let document : Document :=
      { tokens := [{ serial := "A1", tokenType := "hotp", realms := ["ghost"] }] }
    let task : Task := { action := .change .disable }
    ∃ store, Store.inMemory document = .ok store ∧ task.action.validate store = .ok () ∧
      ∃ report, (task.run ⟨.universal, ⟨0, 0⟩⟩ ⟨fun _ => 0, 0⟩ {} store).1 = .ok report ∧
        report.tally = ⟨1, 0, 1, 0⟩ :=
  ⟨_, rfl, rfl, { counters := ⟨1, 1, 1⟩, tally := ⟨1, 0, 1, 0⟩ }, by decide +kernel, rfl⟩

/-- New realms for a token in an unknown realm and for an orphaned one whose owner's realm is
known. -/
theorem run_change_inMemory_setRealms :
    let document : Document :=
      { tokens := [{ serial := "A1", tokenType := "hotp", realms := ["ghost"] },
          { serial := "B2", tokenType := "totp", owner := some ⟨"2", "r", "corp"⟩ }]
        realms := ["lab", "corp"] }
    let task : Task := { action := .change (.setRealms ["lab"]), chunkSize := some ⟨1, by decide⟩ }
    ∃ store, Store.inMemory document = .ok store ∧
      ∃ report, (task.run ⟨.universal, ⟨0, 0⟩⟩ ⟨fun _ => 0, 0⟩ {} store).1 = .ok report ∧
        report.tally.failed = 0 := by
  intro document task
  let store : Store :=
    { tokens := (TokenTable.empty.insert
          { serial := "A1", tokenType := "hotp", realms := ["ghost"] }).insert
          { serial := "B2", tokenType := "totp", owner := some ⟨"2", "r", "corp"⟩ }
      users := []
      realms := .ofList ["lab", "corp"] }
  have hrun : (task.run ⟨.universal, ⟨0, 0⟩⟩ ⟨fun _ => 0, 0⟩ {} store).1 =
      .ok { counters := ⟨2, 2, 2⟩, tally := ⟨2, 2, 0, 0⟩ } := by decide +kernel
  have hvalid : task.action.validate store = .ok () := by decide +kernel
  have hwriter : (task.run ⟨.universal, ⟨0, 0⟩⟩ ⟨fun _ => 0, 0⟩ {} store).2.isBroken = false := by
    decide +kernel
  have hopen : Store.inMemory document = .ok store := rfl
  refine ⟨store, hopen, ?_⟩
  obtain hbeyond | ⟨report, tokens, hreport, -, hstored, -, hfailed⟩ :=
    run_change_inMemory hopen rfl hvalid hwriter
  · cases hrun.symm.trans hbeyond
  · refine ⟨report, hreport, hfailed.2 fun token ht => ?_⟩
    have hget := hstored token ht
    simp only [store, Store.get?, TokenTable.get?_insert] at hget
    rintro ⟨owner, howner, hunknown⟩
    split_ifs at hget <;> cases hget <;> cases howner
    cases hunknown.symm.trans (by decide +kernel : store.knowsRealm "corp" = true)

end Task

end TokenInventory
