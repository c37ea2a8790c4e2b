import TokenInventory.Proofs.Action.Repetition
import TokenInventory.Proofs.Run.Mutation

/-!
# Running a task twice

A run that changes tokens in memory leaves every token that it would select again settled
(`Task.settles_run`): no token outside the selection can get into it, since it has not been touched,
and a selected one is as the change intends or could not be saved. A run over settled tokens leaves
the store alone, however its batches are cut and wherever it ends (`Task.store_run_of_settles`). So
running a task twice is running it once (`Task.run_run`), even if its change is about what the
selection checks.
-/

namespace TokenInventory

/-- Whether a change leaves a store alone when it is applied to a token. -/
def Change.IsIdle (c : Change) (store : Store) (token : Token) : Prop :=
  ((c.plan token).effect.carryOut token.serial store).2 = store

/-- In memory, a token that a change was applied to is settled. -/
theorem Accounts.isSettled {c : Change} {before after : Store} {n : Nat} {token token' : Token}
    {outcome : Outcome} (h : Accounts c before n after token outcome) (hfile : before.file = none)
    (hrealms : after.realms = before.realms) (hget : after.get? token.serial = some token') :
    c.IsSettled after token' := by
  cases h with
  | succeeded hafter => exact .inl (Change.intended_of_intended (hafter.symm.trans hget))
  | failed e hafter hsome =>
    obtain rfl : token = token' := Option.some.inj (hafter.symm.trans hget)
    refine .inr ((Effect.isHindered_congr hrealms).2 ?_)
    by_contra hnot
    cases (((c.plan token).effect.error?_eq_none_iff hfile n).2 hnot).symm.trans hsome

namespace Progress

variable {c : Change} {p : Progress}

theorem perform_of_isIdle {token : Token} (haction : p.performer.action = .change c)
    (hidle : c.IsIdle p.store token) :
    (p.perform token).store = p.store ∧ (p.perform token).performer = p.performer := by
  have hstep : p.performer.step p.store token = p.performer.changeStep c p.store token := by
    rw [Performer.step, haction]
  have hstore : (p.performer.step p.store token).store = p.store := by
    rw [hstep, Performer.store_changeStep]
    exact hidle
  have hperformer : (p.performer.step p.store token).performer = p.performer := by
    rw [hstep, Performer.performer_changeStep]
  unfold perform
  dsimp only
  split_ifs
  · exact ⟨rfl, rfl⟩
  all_goals exact ⟨hstore, hperformer⟩

theorem performAll_of_isIdle {tokens : List Token} (haction : p.performer.action = .change c)
    (hidle : ∀ token ∈ tokens, c.IsIdle p.store token) :
    (p.performAll tokens).store = p.store ∧ (p.performAll tokens).performer = p.performer := by
  induction tokens generalizing p with
  | nil => exact ⟨rfl, rfl⟩
  | cons token tokens ih =>
    rw [List.forall_mem_cons] at hidle
    obtain ⟨hstore, hperformer⟩ := perform_of_isIdle haction hidle.1
    obtain ⟨hstore', hperformer'⟩ :=
      ih (p := p.perform token) (by rw [hperformer, haction]) (by rw [hstore]; exact hidle.2)
    exact ⟨hstore'.trans hstore, hperformer'.trans hperformer⟩

end Progress

namespace Task

variable {task : Task} {c : Change} {around : Circumstances} {entropy entropy' : Entropy}
  {transcript transcript' : Transcript} {store : Store}

/-- A batch changes nothing if the change is idle for every token of the rest that would be
selected. -/
theorem afterBatch_of_isIdle {scan scan' : Scan} {p : Progress} {batch tokens : List Token}
    (haction : p.performer.action = .change c) (hnext : scan.next p.store = (some batch, scan'))
    (hselect : task.selection.select? around p.store.users batch = some tokens)
    (hidle : ∀ token ∈ scan.rest p.store,
      task.selection.accepts? around p.store.users token = some true → c.IsIdle p.store token) :
    (p.afterBatch batch tokens).store = p.store ∧
      (p.afterBatch batch tokens).performer = p.performer := by
  obtain ⟨-, rfl⟩ := Selection.select?_eq_some_iff.1 hselect
  refine Progress.performAll_of_isIdle haction fun token ht => ?_
  obtain ⟨hmem, haccepts⟩ := List.mem_filter.1 ht
  refine hidle token ?_ (of_decide_eq_true haccepts)
  rw [← Scan.next_some hnext]
  exact List.mem_append_left _ hmem

/-- A loop leaves the store alone if the change is idle for every token that the rest of the scan
would select. -/
theorem Loop.store_eq {scan : Scan} {p : Progress} {r : Except RunError Unit × Progress}
    (h : task.Loop around scan p r) (haction : p.performer.action = .change c)
    (hidle : ∀ token ∈ scan.rest p.store,
      task.selection.accepts? around p.store.users token = some true → c.IsIdle p.store token) :
    r.2.store = p.store := by
  -- The store is the same before every batch, so what is left of the scan only gets shorter.
  induction h with
  | ended => rfl
  | beyond => rfl
  | broken hnext hselect => exact (afterBatch_of_isIdle haction hnext hselect hidle).1
  | more hnext hselect _ _ ih =>
    obtain ⟨hstore, hperformer⟩ := afterBatch_of_isIdle haction hnext hselect hidle
    refine (ih (by rw [hperformer, haction]) fun token ht => ?_).trans hstore
    rw [hstore] at ht ⊢
    refine hidle token ?_
    rw [← Scan.next_some hnext]
    exact List.mem_append_right _ ht

/-- Whether everything that a task selects from a store is settled. -/
def Settles (task : Task) (around : Circumstances) (c : Change) (store : Store) : Prop :=
  ∀ token, store.get? token.serial = some token → task.admission.admits token = true →
    task.selection.IsMet around store.users token → c.IsSettled store token

/-- A run over settled tokens in memory leaves the store alone, wherever it ends. -/
theorem store_run_of_settles (haction : task.action = .change c) (hfile : store.file = none)
    (hsettles : task.Settles around c store) :
    (task.run around entropy transcript store).2.store = store := by
  cases hvalid : task.action.validate store with
  | error reason => rw [run_of_validate_error hvalid, beginning]
  | ok _ =>
    rw [run_of_validate_ok hvalid]
    have hloop := task.loop_run around entropy transcript store
    generalize task.proceed around (store.size + 2) task.scan
      (task.opening entropy transcript store) = r at hloop
    have hstart : (task.opening entropy transcript store).performer.action = .change c := by
      show (Performer.start task.action entropy).action = .change c
      rw [haction]
      rfl
    have hstore : r.2.store = store := by
      refine hloop.store_eq hstart fun token ht haccepts => ?_
      have ht : token ∈ task.scan.rest store := ht
      rw [rest_scan, Store.mem_fetch_iff] at ht
      obtain ⟨hget, hadmits, -⟩ := ht
      have hmet := Selection.accepts?_eq_some_true_iff.1 haccepts
      exact (hsettles token hget hadmits hmet).carryOut_eq hfile hget
    obtain ⟨_ | _, p⟩ := r
    · exact hstore
    · unfold ofLoop conclude
      dsimp only
      split_ifs <;> exact hstore

/-- What a run of a change has done in memory: no token outside the selection can be selected now,
and the selected ones are settled. -/
theorem settles_run (hfile : store.file = none) (haction : task.action = .change c)
    (hvalid : task.action.validate store = .ok ()) {tokens : List Token}
    (hchosen : task.chosen? around store = some tokens)
    (hwriter : (task.run around entropy transcript store).2.isBroken = false) :
    let last := (task.run around entropy transcript store).2
    last.store.file = none ∧
      (∀ serial, task.Selects around last.store serial → serial ∈ tokens.map Token.serial) ∧
      task.Settles around c last.store := by
  obtain ⟨outcomes, report, -, -, -, hchanged⟩ :=
    exists_changed_of_run haction hvalid hchosen hwriter
  generalize (task.run around entropy transcript store).2 = last at hchanged ⊢
  have hagree : Store.AgreesOutside (tokens.map Token.serial) last.store store :=
    hchanged.agreesOutside
  have hselects : ∀ serial, task.Selects around last.store serial →
      serial ∈ tokens.map Token.serial := by
    rintro serial ⟨token, hget, hadmits, hmet⟩
    by_contra hout
    obtain rfl : token.serial = serial := last.store.tokens.keyed serial token hget
    rw [hagree.get?_eq _ hout] at hget
    rw [hagree.users_eq] at hmet
    exact hout (List.mem_map_of_mem ((mem_of_chosen? hchosen).2 ⟨hget, hadmits, hmet⟩))
  have hsettled : ∀ t ∈ tokens, ∀ t', last.store.get? t.serial = some t' →
      c.IsSettled last.store t' := fun t ht t' hget => by
    obtain ⟨_, _, haccounts⟩ := hchanged.accounts.exists_of_mem ht
    exact haccounts.isSettled hfile hagree.realms_eq hget
  refine ⟨hchanged.file_eq_none_iff.2 hfile, hselects, fun token hget hadmits hmet => ?_⟩
  obtain ⟨earlier, hearlier, hserial⟩ :=
    List.mem_map.1 (hselects token.serial ⟨token, hget, hadmits, hmet⟩)
  exact hsettled earlier hearlier token (hserial ▸ hget)

/-- Running a task that changes tokens in memory twice, at the same instant, is running it once: the
second run selects nothing new and leaves the whole store, so its document too, as the first run has
left it. The writers of the first run do not fail and no age in it reaches beyond the calendar; the
second one may end in any way. -/
theorem run_run (hfile : store.file = none) (haction : task.action = .change c)
    (hvalid : task.action.validate store = .ok ()) {serials : List String}
    (hselect : task.select? around store = some serials)
    (hwriter : (task.run around entropy transcript store).2.isBroken = false) :
    let first := task.run around entropy transcript store
    let second := task.run around entropy' transcript' first.2.store
    (∃ report, first.1 = .ok report) ∧
      (∀ serial, task.Selects around first.2.store serial → serial ∈ serials) ∧
      second.2.store = first.2.store := by
  intro first second
  obtain ⟨tokens, hchosen, rfl⟩ := exists_chosen?_of_select? hselect
  obtain ⟨_, report, hreport, -⟩ := exists_changed_of_run haction hvalid hchosen hwriter
  obtain ⟨hmemory, hselects, hsettles⟩ := settles_run hfile haction hvalid hchosen hwriter
  exact ⟨⟨report, hreport⟩, hselects, store_run_of_settles haction hmemory hsettles⟩

/-- Disabling the active tokens with an owner, in chunks of one: one of the two lies in a realm that
nobody knows and stays selected. -/
theorem run_run_disable :
    let task : Task :=
      { admission := { active := some true, assigned := some true }
        chunkSize := some ⟨1, by decide⟩
        action := .change .disable }
    let store : Store :=
      { tokens := ((TokenTable.empty.insert
            { serial := "A1", tokenType := "hotp", owner := some ⟨"1", "r", "x"⟩ }).insert
            { serial := "B2", tokenType := "totp" }).insert
            { serial := "C3", tokenType := "hotp", owner := some ⟨"1", "r", "x"⟩
              realms := ["ghost"] }
        users := []
        realms := .empty }
    let around : Circumstances := ⟨.universal, ⟨0, 0⟩⟩
    let first := task.run around ⟨fun _ => 0, 0⟩ {} store
    (∃ report, first.1 = .ok report) ∧
      (task.run around ⟨fun _ => 1, 0⟩ {} first.2.store).2.store = first.2.store := by
  intro task store around first
  have hselect : task.select? around store = some ["A1", "C3"] := by decide +kernel
  have hvalid : task.action.validate store = .ok () := rfl
  obtain ⟨tokens, hchosen, -⟩ := exists_chosen?_of_select? hselect
  have hwriter : (task.run around ⟨fun _ => 0, 0⟩ {} store).2.isBroken = false :=
    isBroken_run hvalid hchosen rfl rfl
  have h := @run_run task .disable around ⟨fun _ => 0, 0⟩ ⟨fun _ => 1, 0⟩ {} {} store rfl rfl hvalid
    _ hselect hwriter
  -- With the abbreviations in place, comparing the stores would run the task.
  simp only [task, store, around, first] at h ⊢
  exact h.imp_right And.right

end Task

end TokenInventory
