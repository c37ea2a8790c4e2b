import TokenInventory.Proofs.Action.Calls
import TokenInventory.Proofs.Run.Chunking
import TokenInventory.Proofs.Run.ImportChannel

/-!
# What is done to a store

A store is changed by single calls, by runs, by updates from entries and by loading containers
(`Operation`). Whatever an operation does it does by calls of the store, and each call is about the
store as it is at that moment: a run carries its change out on a stored token (`Task.reaches_run`),
an update saves what an entry makes of a stored token, and loading a container saves tokens with new
serials. This holds wherever an operation ends (`Operation.reaches_apply`).
-/

namespace TokenInventory

open KeyContainer (PackagedToken)

/-- Whether a file holds an entry. -/
def ImportFile.Holds (file : ImportFile) (entry : Entry) : Prop :=
  ∃ text entries, file.text = .ok text ∧ Entry.readAll text = .ok entries ∧ entry ∈ entries

/-- What may be done to a store. -/
inductive Operation
  | call (c : StoreCall)
  | run (task : Task) (around : Circumstances) (entropy : Entropy) (transcript : Transcript)
  | update (file : ImportFile) (transcript : Transcript)
  | load (file : ImportFile) (key : Option String) (policy : KeyContainer.MacPolicy)
    (transcript : Transcript)

namespace Operation

/-- The store after an operation, however the operation ends. -/
def apply (store : Store) : Operation → Store
  | call c => (c.apply store).2
  | run task around entropy transcript => (task.run around entropy transcript store).2.store
  | update file transcript => (updateTokens file { store, transcript }).2.store
  | load file key policy transcript => (loadTokens file key policy { store, transcript }).2.store

/-- The store after one operation after the other. -/
def applyAll (store : Store) (operations : List Operation) : Store :=
  operations.foldl apply store

/-- Whether an operation may make a call at a store. -/
inductive Makes : Operation → Store → StoreCall → Prop
  | call {store : Store} {c : StoreCall} : Makes (.call c) store c
  | run {task : Task} {around : Circumstances} {entropy : Entropy} {transcript : Transcript}
    {store : Store} {c : StoreCall} (hmakes : task.action.Makes store c) :
    Makes (.run task around entropy transcript) store c
  | update {file : ImportFile} {transcript : Transcript} {store : Store} {entry : Entry}
    {token token' : Token} (hentry : file.Holds entry)
    (hget : store.get? entry.serial = some token) (happly : entry.applyTo token = .ok token') :
    Makes (.update file transcript) store (.save token')
  | load {file : ImportFile} {key : Option String} {policy : KeyContainer.MacPolicy}
    {transcript : Transcript} {store : Store} {packaged : PackagedToken}
    (hnew : store.get? packaged.serial = none) :
    Makes (.load file key policy transcript) store (.save packaged.toToken)

end Operation

/-! ## Runs -/

namespace Progress

variable {p : Progress} {tokens : List Token}

/-- Performing an action on a token is its step, as far as anything is done. -/
theorem perform_cases (p : Progress) (token : Token) :
    ((p.perform token).store = p.store ∧ (p.perform token).performer = p.performer) ∨
      (p.perform token).store = (p.performer.step p.store token).store ∧
        (p.perform token).performer = (p.performer.step p.store token).performer := by
  unfold perform
  dsimp only
  split_ifs
  · exact .inl ⟨rfl, rfl⟩
  all_goals exact .inr ⟨rfl, rfl⟩

theorem reaches_perform {token : Token} (hget : p.store.get? token.serial = some token) :
    Store.Reaches p.performer.action.Makes p.store (p.perform token).store ∧
      (p.perform token).performer.action = p.performer.action := by
  rcases p.perform_cases token with ⟨hstore, hperformer⟩ | ⟨hstore, hperformer⟩ <;>
    rw [hstore, hperformer]
  · exact ⟨.refl, rfl⟩
  · exact ⟨p.performer.reaches_step hget, p.performer.action_step _ _⟩

/-- Each of the tokens is still stored when its turn comes, since no two have the same serial. -/
theorem reaches_performAll (hstored : ∀ token ∈ tokens, p.store.get? token.serial = some token)
    (hsorted : tokens.Pairwise fun a b => a.serial < b.serial) :
    Store.Reaches p.performer.action.Makes p.store (p.performAll tokens).store ∧
      (p.performAll tokens).performer.action = p.performer.action := by
  induction tokens generalizing p with
  | nil => exact ⟨.refl, rfl⟩
  | cons token tokens ih =>
    rw [List.forall_mem_cons] at hstored
    rw [List.pairwise_cons] at hsorted
    obtain ⟨hfirst, haction⟩ := reaches_perform hstored.1
    have hlater : ∀ t ∈ tokens, (p.perform token).store.get? t.serial = some t :=
      stored_perform hstored.2 fun t ht => (hsorted.1 t ht).ne'
    obtain ⟨hrest, haction'⟩ := ih hlater hsorted.2
    rw [haction] at hrest haction'
    exact ⟨hfirst.trans hrest, haction'⟩

end Progress

/-- The rest of a scan consists of stored tokens by ascending serial. -/
theorem Scan.stored_rest (scan : Scan) (store : Store) :
    (∀ token ∈ scan.rest store, store.get? token.serial = some token) ∧
      (scan.rest store).Pairwise fun a b => a.serial < b.serial := by
  unfold rest
  split
  · exact ⟨List.forall_mem_nil _, .nil⟩
  · exact ⟨fun token ht => (Store.mem_fetch_iff.1 ht).1, store.pairwise_fetch _ _ _⟩

namespace Task

variable {task : Task} {around : Circumstances} {scan scan' : Scan} {p : Progress}
  {r : Except RunError Unit × Progress}

theorem reaches_afterBatch {batch tokens : List Token}
    (hnext : scan.next p.store = (some batch, scan'))
    (hselect : task.selection.select? around p.store.users batch = some tokens) :
    Store.Reaches p.performer.action.Makes p.store (p.afterBatch batch tokens).store ∧
      (p.afterBatch batch tokens).performer.action = p.performer.action := by
  obtain ⟨hstored, hsorted⟩ := scan.stored_rest p.store
  rw [← Scan.next_some hnext] at hstored hsorted
  obtain ⟨-, rfl⟩ := Selection.select?_eq_some_iff.1 hselect
  unfold Progress.afterBatch
  -- Before the tokens have their turn the batch is only told of, which leaves the store alone.
  generalize hq : Progress.write _ _ = q
  have hstore : q.store = p.store := hq ▸ rfl
  have hperformer : q.performer = p.performer := hq ▸ rfl
  rw [← hstore] at hstored
  rw [← hperformer, ← hstore]
  refine Progress.reaches_performAll (fun token ht => ?_)
    ((List.pairwise_append.1 hsorted).1.filter _)
  exact hstored token (List.mem_append_left _ (List.mem_of_mem_filter ht))

theorem Loop.reaches (h : task.Loop around scan p r) :
    Store.Reaches p.performer.action.Makes p.store r.2.store := by
  induction h with
  | ended => exact .refl
  | beyond => exact .refl
  | broken hnext hselect => exact (reaches_afterBatch hnext hselect).1
  | more hnext hselect _ _ ih =>
    obtain ⟨hbatch, haction⟩ := reaches_afterBatch hnext hselect
    rw [haction] at ih
    exact hbatch.trans ih

/-- Wherever a run ends, what it has done to the store was done by calls that its action may
make. -/
theorem reaches_run (task : Task) (around : Circumstances) (entropy : Entropy)
    (transcript : Transcript) (store : Store) :
    Store.Reaches task.action.Makes store (task.run around entropy transcript store).2.store := by
  cases hvalid : task.action.validate store with
  | error reason =>
    rw [run_of_validate_error hvalid]
    exact .refl
  | ok _ =>
    have hloop := (task.loop_run around entropy transcript store).reaches
    have haction : (task.opening entropy transcript store).performer.action = task.action :=
      Performer.action_start _ _
    rw [run_of_validate_ok hvalid]
    rw [haction] at hloop
    generalize task.proceed around (store.size + 2) task.scan
      (task.opening entropy transcript store) = r at hloop
    obtain ⟨_ | _, p⟩ := r
    · exact hloop
    · unfold ofLoop conclude
      dsimp only
      split_ifs <;> exact hloop

end Task

/-! ## Imports -/

theorem store_updateToken_cases (p : ImportProgress) (entry : Entry) :
    (updateToken p entry).store = p.store ∨
      ∃ token token', p.store.get? entry.serial = some token ∧ entry.applyTo token = .ok token' ∧
        (updateToken p entry).store = (p.store.save token').2 := by
  rcases updateToken_cases p entry with heq | ⟨token, hget, heq⟩ <;> rw [heq]
  · exact .inl rfl
  · unfold applyEntry
    dsimp only
    cases happly : entry.applyTo token with
    | error e => exact .inl rfl
    | ok token' => exact .inr ⟨token, token', hget, happly, ImportProgress.store_save_then⟩

theorem store_addToken_cases (p : ImportProgress) (packaged : PackagedToken) :
    (addToken p packaged).store = p.store ∨
      p.store.get? packaged.serial = none ∧
        (addToken p packaged).store = (p.store.save packaged.toToken).2 := by
  rcases addToken_cases p packaged with heq | heq <;> rw [heq]
  · exact .inl rfl
  · unfold saveNew
    dsimp only
    split
    · exact .inl rfl
    · next hget => exact .inr ⟨hget, ImportProgress.store_save_then⟩

/-- An import that goes through a list makes the calls that each of its items may make. -/
theorem Store.reaches_foldl {α : Type} {allowed : Store → StoreCall → Prop}
    {step : ImportProgress → α → ImportProgress} {items : List α}
    (hstep : ∀ item ∈ items, ∀ p, Reaches allowed p.store (step p item).store)
    {p : ImportProgress} {store : Store} (hstart : p.store = store) :
    Reaches allowed store (items.foldl step p).store := by
  induction items generalizing p store with
  | nil => exact hstart ▸ .refl
  | cons item items ih =>
    rw [List.forall_mem_cons] at hstep
    exact hstart ▸ (hstep.1 p).trans (ih hstep.2 rfl)

namespace Operation

theorem reaches_update (file : ImportFile) (transcript : Transcript) (store : Store) :
    Store.Reaches (Makes (.update file transcript)) store
      (apply store (.update file transcript)) := by
  rw [apply, updateTokens]
  cases htext : file.text with
  | error e => exact .refl
  | ok text =>
    dsimp only
    cases hread : Entry.readAll text with
    | error e => exact .refl
    | ok entries =>
      have hreached {q : ImportProgress} (hstart : q.store = store) : Store.Reaches
          (Makes (.update file transcript)) store (entries.foldl updateToken q).store := by
        refine Store.reaches_foldl (fun entry hmem p => ?_) hstart
        rcases store_updateToken_cases p entry with
          heq | ⟨token, token', hget, happly, heq⟩ <;> rw [heq]
        · exact .refl
        · have hholds : file.Holds entry := ⟨text, entries, htext, hread, hmem⟩
          exact Store.Reaches.single (Makes.update hholds hget happly)
      dsimp only
      split <;> exact hreached rfl

theorem reaches_load (file : ImportFile) (key : Option String) (policy : KeyContainer.MacPolicy)
    (transcript : Transcript) (store : Store) :
    Store.Reaches (Makes (.load file key policy transcript)) store
      (apply store (.load file key policy transcript)) := by
  rw [apply, loadTokens]
  cases file.text with
  | error e => exact .refl
  | ok text =>
    dsimp only
    cases KeyContainer.resultsOf text.toList key policy with
    | error e => exact .refl
    | ok results =>
      dsimp only
      cases KeyContainer.importOf policy results with
      | error e => exact .refl
      | ok content =>
        have hreached {q : ImportProgress} (hstart : q.store = store) : Store.Reaches
            (Makes (.load file key policy transcript)) store
            (content.tokens.foldl addToken q).store := by
          refine Store.reaches_foldl (fun packaged _ p => ?_) hstart
          rcases store_addToken_cases p packaged with heq | ⟨hnew, heq⟩ <;> rw [heq]
          · exact .refl
          · exact Store.Reaches.single (Makes.load hnew)
        dsimp only
        split <;> exact hreached rfl

/-- What an operation does to a store is done by calls that it may make. -/
theorem reaches_apply (operation : Operation) (store : Store) :
    Store.Reaches operation.Makes store (operation.apply store) := by
  cases operation with
  | call c => exact Store.Reaches.single Makes.call
  | run task around entropy transcript =>
    exact (task.reaches_run around entropy transcript store).mono fun _ _ => Makes.run
  | update file transcript => exact reaches_update file transcript store
  | load file key policy transcript => exact reaches_load file key policy transcript store

/-- What every call of the operations keeps is true after all of them. -/
theorem invariant_applyAll {P : Store → Prop} {operations : List Operation} {store : Store}
    (hcall : ∀ operation ∈ operations, ∀ store call, operation.Makes store call → P store →
      P (call.apply store).2)
    (hstart : P store) : P (applyAll store operations) := by
  induction operations generalizing store with
  | nil => exact hstart
  | cons operation operations ih =>
    rw [List.forall_mem_cons] at hcall
    exact ih hcall.2 ((operation.reaches_apply store).invariant hcall.1 hstart)

end Operation

end TokenInventory
