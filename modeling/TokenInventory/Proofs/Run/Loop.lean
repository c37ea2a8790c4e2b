import TokenInventory.Proofs.Action.Frame
import TokenInventory.Proofs.Run.Plain
import TokenInventory.Proofs.Selection.Choice
import TokenInventory.Proofs.Selection.Rest

/-!
# The loop of a run

`Task.Loop` is the loop of a run as it goes from batch to batch until it ends, with no bound on
the number of batches. A run always gives it enough batches to end (`Task.loop_proceed`). However
the batches are cut, the loop does to the store and to the channels what applying the action to all
the tokens chosen from the rest of the scan does (`Task.Loop.plain_eq`): the action is applied to
tokens of past batches only, and these do not come up again.
-/

namespace TokenInventory

namespace Progress

/-- The progress after a batch of which some tokens were chosen. -/
def afterBatch (p : Progress) (batch tokens : List Token) : Progress :=
  ({ p with counters := p.counters.add batch.length tokens.length }.write
    [.event (Task.batchEvent batch.length tokens.length)]).performAll tokens

theorem perform_agreesOutside (p : Progress) (token : Token) :
    Store.AgreesOutside [token.serial] (p.perform token).store p.store := by
  unfold perform
  have hstep := p.performer.step_agreesOutside p.store token
  dsimp only
  split_ifs
  · exact .refl _ _
  all_goals exact hstep

/-- Tokens with other serials are still stored after a token has had its turn. -/
theorem stored_perform {p : Progress} {token : Token} {tokens : List Token}
    (hstored : ∀ t ∈ tokens, p.store.get? t.serial = some t)
    (hne : ∀ t ∈ tokens, t.serial ≠ token.serial) :
    ∀ t ∈ tokens, (p.perform token).store.get? t.serial = some t := fun t ht => by
  rw [(p.perform_agreesOutside token).get?_eq _ (by simpa using hne t ht), hstored t ht]

theorem performAll_agreesOutside (p : Progress) (tokens : List Token) :
    Store.AgreesOutside (tokens.map Token.serial) (p.performAll tokens).store p.store := by
  induction tokens generalizing p with
  | nil => exact .refl _ _
  | cons token tokens ih =>
    refine ((ih (p.perform token)).mono ?_).trans ((p.perform_agreesOutside token).mono ?_)
    · exact List.subset_cons_self _ _
    · exact List.cons_subset_cons _ (List.nil_subset _)

theorem counters_perform (p : Progress) (token : Token) :
    (p.perform token).counters = p.counters := by
  unfold perform
  dsimp only
  split_ifs <;> rfl

theorem counters_performAll (p : Progress) (tokens : List Token) :
    (p.performAll tokens).counters = p.counters := by
  induction tokens generalizing p with
  | nil => rfl
  | cons token tokens ih => exact (ih (p.perform token)).trans (p.counters_perform token)

variable (p : Progress) (batch tokens : List Token)

theorem afterBatch_agreesOutside : Store.AgreesOutside (tokens.map Token.serial)
    (p.afterBatch batch tokens).store p.store :=
  performAll_agreesOutside _ tokens

theorem counters_afterBatch :
    (p.afterBatch batch tokens).counters = p.counters.add batch.length tokens.length :=
  counters_performAll _ tokens

theorem plain_afterBatch :
    (p.afterBatch batch tokens).plain = (p.performAll tokens).plain := by
  refine performAll_congr ((plain_write_events _ [_]).trans ?_) tokens
  exact plain_eq_iff.2 ⟨rfl, rfl, rfl, rfl, rfl⟩

end Progress

namespace Task

/-- The loop of a task from a state of the scan and a progress, and what it ends with. -/
inductive Loop (task : Task) (around : Circumstances) :
    Scan → Progress → Except RunError Unit × Progress → Prop
  /-- The scan is over. -/
  | ended {scan scan' p} (hnext : scan.next p.store = (none, scan')) :
    Loop task around scan p (.ok (), p)
  /-- A token of the batch cannot be decided. -/
  | beyond {scan scan' p batch} (hnext : scan.next p.store = (some batch, scan'))
      (hselect : task.selection.select? around p.store.users batch = none) :
    Loop task around scan p (.error .beyondCalendar, p)
  /-- The channel breaks during the batch. -/
  | broken {scan scan' p batch tokens} (hnext : scan.next p.store = (some batch, scan'))
      (hselect : task.selection.select? around p.store.users batch = some tokens)
      (hbroken : (p.afterBatch batch tokens).isBroken = true) :
    Loop task around scan p (.error .brokenChannel, p.afterBatch batch tokens)
  /-- The loop goes on after the batch. -/
  | more {scan scan' p batch tokens r} (hnext : scan.next p.store = (some batch, scan'))
      (hselect : task.selection.select? around p.store.users batch = some tokens)
      (hbroken : (p.afterBatch batch tokens).isBroken = false)
      (hloop : Loop task around scan' (p.afterBatch batch tokens) r) :
    Loop task around scan p r

variable {task : Task} {around : Circumstances} {scan : Scan} {p : Progress}
  {r : Except RunError Unit × Progress}

theorem afterBatch_agreesOutside_batch {batch tokens : List Token}
    (h : task.selection.select? around p.store.users batch = some tokens) :
    Store.AgreesOutside (batch.map Token.serial) (p.afterBatch batch tokens).store p.store :=
  (p.afterBatch_agreesOutside batch tokens).mono
    (List.map_subset _ (Selection.subset_of_select? h))

/-- What is chosen from the rest of a scan is what is chosen from the next batch and from the rest
after that batch, even though the action has been applied in between. -/
theorem select?_rest {scan' : Scan} {batch tokens : List Token}
    (hnext : scan.next p.store = (some batch, scan'))
    (hselect : task.selection.select? around p.store.users (scan.rest p.store) = some tokens) :
    ∃ chosen later, task.selection.select? around p.store.users batch = some chosen ∧
      scan.rest p.store = batch ++ scan'.rest (p.afterBatch batch chosen).store ∧
      task.selection.select? around (p.afterBatch batch chosen).store.users
        (scan'.rest (p.afterBatch batch chosen).store) = some later ∧
      tokens = chosen ++ later := by
  rw [← Scan.next_some hnext] at hselect ⊢
  obtain ⟨chosen, later, hchosen, hlater, rfl⟩ := Selection.select?_append_eq_some_iff.1 hselect
  have hagree := afterBatch_agreesOutside_batch hchosen
  refine ⟨chosen, later, hchosen, ?_, ?_, rfl⟩
  · rw [Scan.rest_congr hnext hagree]
  · rw [hagree.users_eq, Scan.rest_congr hnext hagree]
    exact hlater

theorem proceed_succ (fuel : Nat) : task.proceed around (fuel + 1) scan p =
    match scan.next p.store with
    | (none, _) => (.ok (), p)
    | (some batch, scan') =>
      match task.selection.select? around p.store.users batch with
      | none => (.error .beyondCalendar, p)
      | some tokens =>
        if (p.afterBatch batch tokens).isBroken then
          (.error .brokenChannel, p.afterBatch batch tokens)
        else task.proceed around fuel scan' (p.afterBatch batch tokens) :=
  rfl

/-- The loop ends before it has taken as many batches as could be left. -/
theorem loop_proceed {fuel : Nat} (hfuel : scan.left p.store < fuel) :
    task.Loop around scan p (task.proceed around fuel scan p) := by
  induction fuel generalizing scan p with
  | zero => exact absurd hfuel (Nat.not_lt_zero _)
  | succ fuel ih =>
    rw [proceed_succ]
    rcases hnext : scan.next p.store with ⟨_ | batch, scan'⟩
    · exact .ended hnext
    dsimp only
    cases hselect : task.selection.select? around p.store.users batch with
    | none => exact .beyond hnext hselect
    | some tokens =>
      cases hbroken : (p.afterBatch batch tokens).isBroken with
      | true => simpa only [hbroken, if_true] using Loop.broken hnext hselect hbroken
      | false =>
        simp only [hbroken, Bool.false_eq_true, if_false]
        refine .more hnext hselect hbroken (ih ?_)
        have hleft := Scan.left_congr hnext (afterBatch_agreesOutside_batch hselect)
        have := Scan.left_lt hnext
        omega

namespace Loop

/-- A loop over decided tokens does what applying the action to the chosen ones in one go does. -/
theorem plain_eq (h : task.Loop around scan p r) {tokens : List Token}
    (hselect : task.selection.select? around p.store.users (scan.rest p.store) = some tokens) :
    r.2.plain = (p.performAll tokens).plain := by
  induction h generalizing tokens with
  | ended hnext =>
    rw [Scan.rest_eq_nil_of_next hnext] at hselect
    cases hselect
    rfl
  | beyond hnext hbatch =>
    obtain ⟨_, _, hchosen, -⟩ := select?_rest hnext hselect
    cases hbatch.symm.trans hchosen
  | @broken _ _ p batch chosen hnext hbatch hbroken =>
    obtain ⟨_, later, hchosen, -, -, rfl⟩ := select?_rest hnext hselect
    cases hbatch.symm.trans hchosen
    have hplain := p.plain_afterBatch batch chosen
    rw [Progress.performAll_append,
      Progress.performAll_of_isBroken ((Progress.isBroken_congr hplain).symm.trans hbroken), hplain]
  | @more _ _ p batch chosen _ hnext hbatch _ _ ih =>
    obtain ⟨_, later, hchosen, -, hlater, rfl⟩ := select?_rest hnext hselect
    cases hbatch.symm.trans hchosen
    rw [Progress.performAll_append,
      Progress.performAll_congr (p.plain_afterBatch batch chosen).symm later]
    exact ih hlater

/-- A loop over decided tokens comes to its end or breaks the channel. -/
theorem result_cases (h : task.Loop around scan p r) {tokens : List Token}
    (hselect : task.selection.select? around p.store.users (scan.rest p.store) = some tokens) :
    (r.1 = .ok () ∧
      r.2.counters.scanned = p.counters.scanned + (scan.rest p.store).length ∧
      r.2.counters.matched = p.counters.matched + tokens.length) ∨
    r.1 = .error .brokenChannel ∧ r.2.isBroken = true := by
  induction h generalizing tokens with
  | ended hnext =>
    rw [Scan.rest_eq_nil_of_next hnext] at hselect ⊢
    cases hselect
    exact .inl ⟨rfl, rfl, rfl⟩
  | beyond hnext hbatch =>
    obtain ⟨_, _, hchosen, -⟩ := select?_rest hnext hselect
    cases hbatch.symm.trans hchosen
  | broken _ _ hbroken => exact .inr ⟨rfl, hbroken⟩
  | @more _ _ p batch chosen _ hnext hbatch _ _ ih =>
    obtain ⟨_, later, hchosen, hrest, hlater, rfl⟩ := select?_rest hnext hselect
    cases hbatch.symm.trans hchosen
    refine (ih hlater).imp_left fun ⟨hok, hscanned, hmatched⟩ => ⟨hok, ?_, ?_⟩
    · rw [hscanned, hrest, p.counters_afterBatch, List.length_append, Counters.add, Nat.add_assoc]
    · rw [hmatched, p.counters_afterBatch, List.length_append, Counters.add, Nat.add_assoc]

/-- A loop that comes to its end has decided all tokens. -/
theorem exists_select?_rest (h : task.Loop around scan p r) (hok : r.1 = .ok ()) :
    ∃ tokens, task.selection.select? around p.store.users (scan.rest p.store) = some tokens := by
  induction h with
  | ended hnext =>
    rw [Scan.rest_eq_nil_of_next hnext]
    exact ⟨[], rfl⟩
  | beyond => cases hok
  | broken => cases hok
  | @more _ _ p batch chosen _ hnext hbatch _ _ ih =>
    obtain ⟨later, hlater⟩ := ih hok
    have hagree := afterBatch_agreesOutside_batch hbatch
    rw [hagree.users_eq, Scan.rest_congr hnext hagree] at hlater
    rw [← Scan.next_some hnext]
    exact ⟨_, Selection.select?_append_eq_some_iff.2 ⟨chosen, later, hbatch, hlater, rfl⟩⟩

end Loop

end Task

end TokenInventory
