import TokenInventory.Proofs.Action.Tally
import TokenInventory.Proofs.Run.Loop

/-!
# Runs in chunks

A run whose parameters are accepted and which can decide all admitted tokens chooses them from the
store it is given and applies its action to the chosen ones in one go, whatever its chunk size
(`Task.run_cases`). So the chunk size cannot be told from what a run leaves behind
(`Task.run_inChunks_eq_inOneGo`), although in chunks each batch is fetched from a store that the
action has already changed.
-/

namespace TokenInventory

namespace Progress

theorem finish_congr {p q : Progress} (h : p.plain = q.plain) :
    p.finish.plain = q.finish.plain := by
  rw [finish, finish, (plain_eq_iff.1 h).2.1]
  exact write_congr h _

/-- The counters keep up with the outcomes. -/
theorem tally_perform {p : Progress} (h : p.tally = .ofOutcomes p.outcomes) (token : Token) :
    (p.perform token).tally = .ofOutcomes (p.perform token).outcomes := by
  have hrecord (outcome : Outcome) :
      p.tally.record outcome = .ofOutcomes (outcome :: p.outcomes) := by
    rw [Tally.ofOutcomes_cons, h]
  unfold perform
  dsimp only
  split_ifs
  · exact h
  · exact h
  all_goals exact hrecord _

theorem tally_performAll {p : Progress} (h : p.tally = .ofOutcomes p.outcomes)
    (tokens : List Token) :
    (p.performAll tokens).tally = .ofOutcomes (p.performAll tokens).outcomes := by
  induction tokens generalizing p with
  | nil => exact h
  | cons token tokens ih => exact ih (tally_perform h token)

end Progress

namespace Task

/-- The progress of a run that has not done anything yet. -/
def beginning (task : Task) (entropy : Entropy) (transcript : Transcript) (store : Store) :
    Progress where
  store := store
  performer := .start task.action entropy
  transcript := transcript

/-- The progress at the start of the loop. -/
def opening (task : Task) (entropy : Entropy) (transcript : Transcript) (store : Store) :
    Progress :=
  (task.beginning entropy transcript store).write [.event task.startEvent]

/-- What a run has when its loop has ended. -/
def ofLoop (task : Task) (r : Except RunError Unit × Progress) : Except RunError Report × Progress :=
  match r with
  | (.error e, p) => (.error e, p)
  | (.ok (), p) => task.conclude p

/-- The tokens that a task chooses from a store; `none` if one of the admitted tokens cannot be
decided. -/
def chosen? (task : Task) (around : Circumstances) (store : Store) : Option (List Token) :=
  task.selection.select? around store.users (store.fetch task.admission none none)

/-- What a report says apart from the number of batches. -/
def totals (report : Report) : Tally × Nat × Nat :=
  (report.tally, report.counters.scanned, report.counters.matched)

variable {task : Task} {around : Circumstances} {entropy : Entropy} {transcript : Transcript}
  {store : Store}

theorem rest_scan (task : Task) (store : Store) :
    task.scan.rest store = store.fetch task.admission none none := by
  cases h : task.chunkSize <;> simp [Scan.rest, scan, h]

theorem left_scan_lt (task : Task) (store : Store) : task.scan.left store < store.size + 2 := by
  have hlength : (task.scan.rest store).length ≤ store.size := by
    rw [rest_scan, Store.fetch, TokenTable.after_none]
    refine (List.length_filter_le _ _).trans ?_
    rw [TokenTable.toList, SortedMap.values, List.length_map]
    exact le_refl _
  have hdone : task.scan.isDone = false := rfl
  rw [Scan.left, hdone]
  simp only [Bool.false_eq_true, if_false]
  omega

theorem run_of_validate_error {reason : ParameterError}
    (h : task.action.validate store = .error reason) :
    task.run around entropy transcript store =
      (.error (.refused reason), task.beginning entropy transcript store) := by
  unfold run
  rw [h]
  rfl

/-- A run whose parameters are accepted is its loop with what comes before and after. -/
theorem run_of_validate_ok (h : task.action.validate store = .ok ()) :
    task.run around entropy transcript store = task.ofLoop (task.proceed around (store.size + 2)
      task.scan (task.opening entropy transcript store)) := by
  unfold run
  rw [h]
  rfl

/-- The loop of a run ends by itself. -/
theorem loop_run (task : Task) (around : Circumstances) (entropy : Entropy)
    (transcript : Transcript) (store : Store) :
    task.Loop around task.scan (task.opening entropy transcript store) (task.proceed around
      (store.size + 2) task.scan (task.opening entropy transcript store)) :=
  loop_proceed (task.left_scan_lt store)

theorem plain_opening (task : Task) (entropy : Entropy) (transcript : Transcript) (store : Store) :
    (task.opening entropy transcript store).plain =
      (task.beginning entropy transcript store).plain :=
  Progress.plain_write_events _ [_]

/-- A run that can decide all admitted tokens applies its action to the chosen ones in one go; it
reports that unless the channel breaks. -/
theorem run_cases (task : Task) (entropy : Entropy) (transcript : Transcript)
    (hvalid : task.action.validate store = .ok ()) {tokens : List Token}
    (hchosen : task.chosen? around store = some tokens) :
    (task.run around entropy transcript store).2.plain =
        ((task.beginning entropy transcript store).performAll tokens).finish.plain ∧
      (task.run around entropy transcript store).1.map totals =
        if ((task.beginning entropy transcript store).performAll tokens).finish.isBroken then
          .error .brokenChannel
        else
          .ok (((task.beginning entropy transcript store).performAll tokens).tally,
            (store.fetch task.admission none none).length, tokens.length) := by
  rw [run_of_validate_ok hvalid]
  have hloop := task.loop_run around entropy transcript store
  generalize task.proceed around (store.size + 2) task.scan
    (task.opening entropy transcript store) = r at hloop
  obtain ⟨result, p⟩ := r
  have hrest := task.rest_scan store
  rw [chosen?, ← hrest] at hchosen
  have hplain : p.plain = ((task.beginning entropy transcript store).performAll tokens).plain :=
    (hloop.plain_eq hchosen).trans (Progress.performAll_congr (task.plain_opening _ _ _) tokens)
  have hfinish := Progress.finish_congr hplain
  have hbroken := Progress.isBroken_congr hfinish
  obtain ⟨-, -, -, -, htally⟩ := Progress.plain_eq_iff.1 hplain
  rw [← hfinish, ← hbroken, ← htally]
  rcases hloop.result_cases hchosen with ⟨hok, hscanned, hmatched⟩ | ⟨herror, hend⟩
  · obtain rfl : result = .ok () := hok
    simp only [ofLoop, conclude]
    split_ifs with h
    · exact ⟨rfl, rfl⟩
    · refine ⟨Progress.plain_write_events _ _, ?_⟩
      rw [← hrest]
      have hscanned : p.counters.scanned = 0 + (task.scan.rest store).length := hscanned
      have hmatched : p.counters.matched = 0 + tokens.length := hmatched
      rw [Nat.zero_add] at hscanned hmatched
      rw [← hscanned, ← hmatched]
      rfl
  · obtain rfl : result = .error .brokenChannel := herror
    have hfinished : p.finish = p := Progress.write_of_isBroken hend _
    have hend : p.isBroken = true := hend
    rw [hfinished, if_pos hend]
    exact ⟨rfl, rfl⟩

/-- A run whose channel does not break reports the outcomes for the chosen tokens. -/
theorem exists_report (hvalid : task.action.validate store = .ok ()) {tokens : List Token}
    (hchosen : task.chosen? around store = some tokens)
    (hbroken : ((task.beginning entropy transcript store).performAll tokens).finish.isBroken =
      false) :
    ∃ report, (task.run around entropy transcript store).1 = .ok report ∧
      report.tally =
        .ofOutcomes ((task.beginning entropy transcript store).performAll tokens).outcomes ∧
      report.counters.matched = tokens.length := by
  have htotals := (task.run_cases entropy transcript hvalid hchosen).2
  rw [hbroken, if_neg Bool.false_ne_true] at htotals
  cases hrun : (task.run around entropy transcript store).1 with
  | error e =>
    rw [hrun] at htotals
    cases htotals
  | ok report =>
    rw [hrun] at htotals
    obtain ⟨htally, -, hmatched⟩ : report.tally = _ ∧ report.counters.scanned = _ ∧
      report.counters.matched = _ := by simpa [Except.map, totals] using htotals
    exact ⟨report, rfl, htally.trans (Progress.tally_performAll rfl tokens), hmatched⟩

/-- A run that ends with a report could decide all admitted tokens. -/
theorem exists_chosen? (hvalid : task.action.validate store = .ok ()) {report : Report}
    (h : (task.run around entropy transcript store).1 = .ok report) :
    ∃ tokens, task.chosen? around store = some tokens := by
  rw [run_of_validate_ok hvalid] at h
  have hloop := task.loop_run around entropy transcript store
  generalize task.proceed around (store.size + 2) task.scan
    (task.opening entropy transcript store) = r at h hloop
  obtain ⟨result, p⟩ := r
  cases result with
  | error e => cases h
  | ok _ =>
    have hrest := hloop.exists_select?_rest rfl
    have hopening : (task.opening entropy transcript store).store = store := rfl
    rwa [hopening, rest_scan] at hrest

/-- A run that can decide all tokens does not reach beyond the calendar. -/
theorem run_ne_beyondCalendar (h : ∀ token, store.get? token.serial = some token →
    task.selection.accepts? around store.users token ≠ none) :
    (task.run around entropy transcript store).1 ≠ .error .beyondCalendar := by
  intro hrun
  cases hvalid : task.action.validate store with
  | error reason =>
    rw [run_of_validate_error hvalid] at hrun
    cases hrun
  | ok _ =>
    have hchosen : task.chosen? around store = some _ :=
      Selection.select?_eq_some_iff.2 ⟨fun token ht => h token (Store.mem_fetch_iff.1 ht).1, rfl⟩
    have := (task.run_cases entropy transcript hvalid hchosen).2
    rw [hrun] at this
    split_ifs at this <;> cases this

/-- Without a chunk size all admitted tokens are in one batch, so one that cannot be decided ends
the run. -/
theorem run_of_chosen?_eq_none (hvalid : task.action.validate store = .ok ())
    (hsize : task.chunkSize = none) (hchosen : task.chosen? around store = none) :
    (task.run around entropy transcript store).1 = .error .beyondCalendar := by
  have hnext : task.scan.next (task.opening entropy transcript store).store =
      (some (store.fetch task.admission none none), { task.scan with isDone := true }) :=
    Scan.next_of_not_chunked hsize rfl store
  have hselect : task.selection.select? around (task.opening entropy transcript store).store.users
      (store.fetch task.admission none none) = none := hchosen
  rw [run_of_validate_ok hvalid, proceed_succ, hnext]
  dsimp only
  rw [hselect]
  rfl

/-- The task without a chunk size. -/
def inOneGo (task : Task) : Task :=
  { task with chunkSize := none }

/-- The task with a chunk size. -/
def inChunks (task : Task) (size : ChunkSize) : Task :=
  { task with chunkSize := some size }

/-- A run in chunks ends by itself, and neither the store, nor the channels, nor the report, batches
apart, tell it from the run in one go. Runs in one go that reach beyond the calendar are left
out. -/
theorem run_inChunks_eq_inOneGo (task : Task) (size : ChunkSize) (around : Circumstances)
    (entropy : Entropy) (transcript : Transcript) (store : Store)
    (hcalendar : (task.inOneGo.run around entropy transcript store).1 ≠ .error .beyondCalendar) :
    let chunked := (task.inChunks size).run around entropy transcript store
    let whole := task.inOneGo.run around entropy transcript store
    (task.action.validate store = .ok () →
      ∃ r, (task.inChunks size).Loop around (task.inChunks size).scan
          ((task.inChunks size).opening entropy transcript store) r ∧
        chunked = (task.inChunks size).ofLoop r) ∧
      chunked.2.store = whole.2.store ∧
      chunked.2.transcript.result = whole.2.transcript.result ∧
      chunked.2.transcript.noteText = whole.2.transcript.noteText ∧
      chunked.2.transcript.isBroken = whole.2.transcript.isBroken ∧
      chunked.1.map totals = whole.1.map totals := by
  intro chunked whole
  have hloop : task.action.validate store = .ok () → ∃ r, (task.inChunks size).Loop around
      (task.inChunks size).scan ((task.inChunks size).opening entropy transcript store) r ∧
      chunked = (task.inChunks size).ofLoop r := fun hvalid =>
    ⟨_, (task.inChunks size).loop_run around entropy transcript store, run_of_validate_ok hvalid⟩
  refine ⟨hloop, ?_⟩
  suffices h : chunked.2.plain = whole.2.plain ∧ chunked.1.map totals = whole.1.map totals by
    obtain ⟨hstore, -, htranscript, -⟩ := Progress.plain_eq_iff.1 h.1
    exact ⟨hstore, Transcript.result_congr htranscript, Transcript.noteText_congr htranscript,
      Transcript.isBroken_congr htranscript, h.2⟩
  cases hvalid : task.action.validate store with
  | error reason =>
    have hchunked : chunked =
        (.error (.refused reason), (task.inChunks size).beginning entropy transcript store) :=
      run_of_validate_error hvalid
    have hwhole : whole =
        (.error (.refused reason), task.inOneGo.beginning entropy transcript store) :=
      run_of_validate_error hvalid
    rw [hchunked, hwhole]
    exact ⟨rfl, rfl⟩
  | ok _ =>
    cases hchosen : task.chosen? around store with
    | none =>
      have hwhole : (task.inOneGo.run around entropy transcript store).1 =
          .error .beyondCalendar := run_of_chosen?_eq_none hvalid rfl hchosen
      exact absurd hwhole hcalendar
    | some tokens =>
      have hchunked := (task.inChunks size).run_cases entropy transcript hvalid hchosen
      have hwhole := task.inOneGo.run_cases entropy transcript hvalid hchosen
      exact ⟨hchunked.1.trans hwhole.1.symm, hchunked.2.trans hwhole.2.symm⟩

/-- Disabling active tokens in chunks of one, with a file that takes no second change. -/
theorem run_inChunks_eq_inOneGo_disable :
    let task : Task :=
      { admission := { active := some true }
        selection := { lastAuthentication := some ⟨7, .days, by decide⟩ }
        action := .change .disable }
    let store : Store :=
      { tokens := ((TokenTable.empty.insert { serial := "A1", tokenType := "hotp" }).insert
          { serial := "B2", tokenType := "totp" }).insert { serial := "C3", tokenType := "hotp" }
        users := []
        realms := .empty
        file := some { content := "", accepts := fun n => n != 1 } }
    let around : Circumstances := ⟨.universal, ⟨0, 0⟩⟩
    let entropy : Entropy := ⟨fun _ => 0, 0⟩
    (task.inOneGo.run around entropy {} store).1 ≠ .error .beyondCalendar ∧
      ((task.inChunks ⟨1, by decide⟩).run around entropy {} store).2.store =
        (task.inOneGo.run around entropy {} store).2.store := by
  intro task store around entropy
  have hcalendar : (task.inOneGo.run around entropy {} store).1 ≠ .error .beyondCalendar := by
    refine run_ne_beyondCalendar fun token ht => ?_
    have hinfo : token.info = .empty := by
      simp only [store, Store.get?, TokenTable.get?_insert] at ht
      split_ifs at ht <;> cases ht <;> rfl
    have hrecent : Selection.isRecent? around ⟨7, .days, by decide⟩ token = some false := by
      rw [Selection.isRecent?, Token.lastAuthentication?, hinfo, SortedMap.get?_empty]
      rfl
    intro haccepts
    simp only [Selection.accepts?, task, inOneGo, hrecent, Option.map_some, reduceCtorEq]
      at haccepts
  exact ⟨hcalendar, (run_inChunks_eq_inOneGo task ⟨1, by decide⟩ around entropy {} store
    hcalendar).2.1⟩

end Task

end TokenInventory
