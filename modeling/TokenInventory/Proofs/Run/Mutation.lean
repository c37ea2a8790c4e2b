import TokenInventory.Proofs.Action.Change
import TokenInventory.Proofs.Run.Notes
import TokenInventory.Proofs.Run.Selected

/-!
# Runs that change tokens

A run that changes tokens gives one outcome for each selected token, in the order of their serials,
and each outcome tells what became of its token (`Accounts`): the token is as the change intends, or
it is as it was before. Which of the two it is depends on the realms of the token and on what the
file of the store says when the token has its turn, after all that the changes before it have asked
(`AccountsInTurn`). No other token is touched, a success is told in the results only and a failure
in the notes only (`Task.run_change`). What the steps in between do to the other tokens does not
matter, since each step leaves all serials but its own alone (`Progress.performAll_change`).
-/

namespace TokenInventory

/-- What an outcome of a change says about a token of a store, whose file has been asked `n` times
until then, and about the store afterwards. -/
inductive Accounts (c : Change) (before : Store) (n : Nat) (after : Store) (token : Token) :
    Outcome → Prop
  /-- The token is as the change intends. -/
  | succeeded (hafter : after.get? token.serial = c.intended token)
    (hnone : (c.plan token).effect.error? before n = none) :
    Accounts c before n after token ⟨token.serial, .succeeded, (c.plan token).detail⟩
  /-- The token is as it was. -/
  | failed (e : StoreError) (hafter : after.get? token.serial = some token)
    (hsome : (c.plan token).effect.error? before n = some e) :
    Accounts c before n after token ⟨token.serial, .failed, e.message⟩

/-- Whether outcomes of a change tell what became of tokens of a store that have their turns one
after the other. The file, if there is one, has been asked `n` times until the first turn. -/
inductive AccountsInTurn (c : Change) (before after : Store) :
    Nat → List Token → List Outcome → Prop
  | nil (n : Nat) : AccountsInTurn c before after n [] []
  | cons {n : Nat} {token : Token} {outcome : Outcome} {tokens : List Token}
    {outcomes : List Outcome} (hfirst : Accounts c before n after token outcome)
    (hrest : AccountsInTurn c before after (n + (c.plan token).effect.attempts before) tokens
      outcomes) :
    AccountsInTurn c before after n (token :: tokens) (outcome :: outcomes)

/-- What is told in the results about a token that a change was applied to. -/
def Change.told (c : Change) (token : Token) (outcome : Outcome) : List Char :=
  if outcome.isSuccess then (c.plan token).status.flatMap fun line => (Text.line line).toList
  else []

/-- What is told in the notes about an outcome. -/
def Outcome.noted (outcome : Outcome) : List Char :=
  if outcome.isFailure then outcome.complaint.toList else []

namespace Accounts

variable {c : Change} {before before' after after' : Store} {m n : Nat} {token : Token}
  {outcome : Outcome}

theorem serial_eq (h : Accounts c before n after token outcome) :
    outcome.serial = token.serial := by
  cases h <;> rfl

/-- An account depends on the realms before, what the file says and the token afterwards only. -/
theorem congr (h : Accounts c before n after token outcome)
    (hrealms : before'.realms = before.realms) (hrefuses : before'.refuses m = before.refuses n)
    (hafter : after'.get? token.serial = after.get? token.serial) :
    Accounts c before' m after' token outcome := by
  have herror := (c.plan token).effect.error?_congr hrealms hrefuses
  cases h with
  | succeeded hget hnone => exact .succeeded (hafter.trans hget) (herror.trans hnone)
  | failed e hget hsome => exact .failed e (hafter.trans hget) (herror.trans hsome)

end Accounts

namespace AccountsInTurn

variable {c : Change} {before before' after : Store} {m n : Nat} {tokens : List Token}
  {outcomes : List Outcome}

/-- What a later store accounts for is accounted for by an earlier one, whose file is asked more
often until then. -/
theorem earlier (h : AccountsInTurn c before' after n tokens outcomes)
    (hrealms : before'.realms = before.realms)
    (hrefuses : ∀ k, before'.refuses k = before.refuses (k + m)) :
    AccountsInTurn c before after (n + m) tokens outcomes := by
  induction h with
  | nil n => exact .nil _
  | @cons n token outcome tokens outcomes hfirst _ ih =>
    refine .cons (hfirst.congr hrealms.symm (hrefuses n).symm rfl) ?_
    rw [Effect.attempts_congr hrealms, Nat.add_right_comm] at ih
    exact ih

theorem forall₂ (h : AccountsInTurn c before after n tokens outcomes) :
    List.Forall₂ (fun token outcome => ∃ k, Accounts c before k after token outcome) tokens
      outcomes := by
  induction h with
  | nil => exact .nil
  | cons hfirst _ ih => exact .cons ⟨_, hfirst⟩ ih

theorem exists_of_mem (h : AccountsInTurn c before after n tokens outcomes) {token : Token}
    (hmem : token ∈ tokens) : ∃ k outcome, Accounts c before k after token outcome := by
  induction h with
  | nil => cases hmem
  | cons hfirst _ ih =>
    rcases List.mem_cons.1 hmem with rfl | hmem
    · exact ⟨_, _, hfirst⟩
    · exact ih hmem

end AccountsInTurn

namespace Progress

variable {c : Change} {tokens : List Token} {outcomes : List Outcome} {p p' q : Progress}

/-- How a progress comes from another one by a change of tokens, one after the other. -/
structure Changed (c : Change) (tokens : List Token) (outcomes : List Outcome) (p q : Progress) :
    Prop where
  performer_eq : q.performer = p.performer
  /-- The outcomes come in the order of the tokens. -/
  outcomes_eq : q.outcomes = outcomes.reverse ++ p.outcomes
  accounts : AccountsInTurn c p.store q.store 0 tokens outcomes
  agreesOutside : Store.AgreesOutside (tokens.map Token.serial) q.store p.store
  file_eq_none_iff : q.store.file = none ↔ p.store.file = none
  result_eq : q.transcript.result.toList =
    p.transcript.result.toList ++ (List.zipWith c.told tokens outcomes).flatten
  noteText_eq : q.transcript.noteText.toList =
    p.transcript.noteText.toList ++ outcomes.flatMap Outcome.noted

theorem Changed.refl (c : Change) (p : Progress) : Changed c [] [] p p where
  performer_eq := rfl
  outcomes_eq := rfl
  accounts := .nil 0
  agreesOutside := .refl _ _
  file_eq_none_iff := Iff.rfl
  result_eq := (List.append_nil _).symm
  noteText_eq := (List.append_nil _).symm

/-- A token that does not come up again is as the change of it has left it. -/
theorem Changed.cons {token : Token} {outcome : Outcome} (hfirst : Changed c [token] [outcome] p p')
    (hrefuses : ∀ k, p'.store.refuses k =
      p.store.refuses (k + (c.plan token).effect.attempts p.store))
    (hrest : Changed c tokens outcomes p' q) (hfresh : token.serial ∉ tokens.map Token.serial) :
    Changed c (token :: tokens) (outcome :: outcomes) p q where
  performer_eq := hrest.performer_eq.trans hfirst.performer_eq
  outcomes_eq := by
    rw [hrest.outcomes_eq, hfirst.outcomes_eq]
    simp
  accounts := by
    have hlater := hrest.accounts.earlier hfirst.agreesOutside.realms_eq hrefuses
    cases hfirst.accounts with
    | cons haccounts _ =>
      exact .cons (haccounts.congr rfl rfl (hrest.agreesOutside.get?_eq _ hfresh)) hlater
  agreesOutside := by
    refine (hrest.agreesOutside.mono ?_).trans (hfirst.agreesOutside.mono ?_)
    · exact List.subset_cons_self _ _
    · exact List.cons_subset_cons _ (List.nil_subset _)
  file_eq_none_iff := hrest.file_eq_none_iff.trans hfirst.file_eq_none_iff
  result_eq := by
    rw [hrest.result_eq, hfirst.result_eq, List.append_assoc]
    simp
  noteText_eq := by
    rw [hrest.noteText_eq, hfirst.noteText_eq, List.append_assoc]
    simp

/-- The change of one stored token. -/
theorem perform_change {token : Token} (haction : p.performer.action = .change c)
    (hstored : p.store.get? token.serial = some token)
    (hbroken : (p.perform token).isBroken = false) :
    (∀ k, (p.perform token).store.refuses k =
      p.store.refuses (k + (c.plan token).effect.attempts p.store)) ∧
    ∃ outcome, Changed c [token] [outcome] p (p.perform token) := by
  obtain ⟨-, hperformer, hstore, houtcomes, hresult⟩ := perform_of_isBroken_eq_false hbroken
  have hnotes := toList_noteText_perform hbroken
  have hstep : p.performer.step p.store token = p.performer.changeStep c p.store token := by
    rw [Performer.step, haction]
  have hfile : (p.perform token).store.file = none ↔ p.store.file = none := by
    rw [hstore, hstep, Performer.store_changeStep]
    exact Effect.file_carryOut_eq_none_iff _ _ _
  have hagree := p.perform_agreesOutside token
  rw [hstep] at hperformer hstore houtcomes hresult hnotes
  rw [Performer.performer_changeStep] at hperformer
  constructor
  · rw [hstore, Performer.store_changeStep]
    exact Effect.refuses_carryOut hstored
  rcases p.performer.changeStep_cases c hstored with
    ⟨houtcome, houtputs, hget, hnone⟩ | ⟨e, houtcome, houtputs, hsame, hsome⟩
  · rw [houtcome] at houtcomes
    refine ⟨_, hperformer, houtcomes, .cons (.succeeded (hstore ▸ hget) hnone) (.nil _), hagree,
      hfile, ?_, ?_⟩
    · rw [hresult, houtputs, resultChars_flatMap_resultLine]
      exact congrArg _ (List.append_nil _).symm
    · rw [hnotes, houtputs, noteChars_flatMap_resultLine]
      rfl
  · have hkept : (p.perform token).store.get? token.serial = some token := by
      rw [hstore, hsame.get?_eq _ List.not_mem_nil, hstored]
    rw [houtcome] at houtcomes houtputs
    refine ⟨_, hperformer, houtcomes, .cons (.failed e hkept hsome) (.nil _), hagree, hfile, ?_, ?_⟩
    · rw [hresult, houtputs]
      rfl
    · rw [hnotes, houtputs]
      rfl

/-- The change of stored tokens with their own serials. Each of them is still stored when its turn
comes. -/
theorem performAll_change (haction : p.performer.action = .change c)
    (hstored : ∀ token ∈ tokens, p.store.get? token.serial = some token)
    (hnodup : (tokens.map Token.serial).Nodup)
    (hbroken : (p.performAll tokens).isBroken = false) :
    ∃ outcomes, Changed c tokens outcomes p (p.performAll tokens) := by
  -- The tokens to come have other serials, so they are still stored after the first change.
  induction tokens generalizing p with
  | nil => exact ⟨[], .refl c p⟩
  | cons token tokens ih =>
    rw [List.forall_mem_cons] at hstored
    rw [List.map_cons, List.nodup_cons] at hnodup
    have hfirst : (p.perform token).isBroken = false := isBroken_of_performAll hbroken
    obtain ⟨hrefuses, outcome, hchanged⟩ := perform_change haction hstored.1 hfirst
    have hlater : ∀ t ∈ tokens, (p.perform token).store.get? t.serial = some t :=
      stored_perform hstored.2 fun t ht heq => hnodup.1 (heq ▸ List.mem_map_of_mem ht)
    obtain ⟨outcomes, hrest⟩ :=
      ih (by rw [hchanged.performer_eq, haction]) hlater hnodup.2 hbroken
    exact ⟨outcome :: outcomes, hchanged.cons hrefuses hrest hnodup.1⟩

end Progress

/-- Outcomes that account for tokens are successes and failures. -/
theorem Tally.ofOutcomes_of_accounts {c : Change} {before after : Store} {n : Nat}
    {tokens : List Token} {outcomes : List Outcome}
    (h : AccountsInTurn c before after n tokens outcomes) :
    (ofOutcomes outcomes).processed = tokens.length ∧
      (ofOutcomes outcomes).succeeded + (ofOutcomes outcomes).failed = tokens.length ∧
      (ofOutcomes outcomes).skipped = 0 := by
  have hcount := processed_ofOutcomes outcomes
  have hskipped : (ofOutcomes outcomes).skipped = 0 := by
    induction h with
    | nil => rfl
    | cons hfirst _ ih =>
      rw [ofOutcomes_cons]
      cases hfirst <;> exact ih (processed_ofOutcomes _)
  have hprocessed : (ofOutcomes outcomes).processed = tokens.length := h.forall₂.length_eq.symm
  exact ⟨hprocessed, by omega, hskipped⟩

/-- Nothing is written after the last change. -/
theorem Progress.finish_of_change {p : Progress} {c : Change} {entropy : Entropy}
    (h : p.performer = .start (.change c) entropy) : p.finish = p := by
  have hfinish : (Performer.start (.change c) entropy).finish = [] := rfl
  rw [finish, h, hfinish]
  rfl

/-- A change of tokens does not show in the events. -/
theorem Progress.Changed.congr {c : Change} {tokens : List Token} {outcomes : List Outcome}
    {p q q' : Progress} (h : Changed c tokens outcomes p q) (hplain : q'.plain = q.plain) :
    Changed c tokens outcomes p q' := by
  obtain ⟨hstore, hperformer, htranscript, houtcomes, -⟩ := plain_eq_iff.1 hplain
  have hresult := Transcript.result_congr htranscript
  have hnotes := Transcript.noteText_congr htranscript
  constructor
  · exact hperformer.trans h.performer_eq
  · exact houtcomes.trans h.outcomes_eq
  · exact hstore ▸ h.accounts
  · exact hstore ▸ h.agreesOutside
  · exact hstore ▸ h.file_eq_none_iff
  · exact hresult ▸ h.result_eq
  · exact hnotes ▸ h.noteText_eq

namespace Task

variable {task : Task} {c : Change} {around : Circumstances} {entropy : Entropy}
  {transcript : Transcript} {store : Store} {tokens : List Token}

/-- A run of a valid change whose writers do not fail changes the chosen tokens and reports it. -/
theorem exists_changed_of_run (haction : task.action = .change c)
    (hvalid : task.action.validate store = .ok ())
    (hchosen : task.chosen? around store = some tokens)
    (hwriter : (task.run around entropy transcript store).2.isBroken = false) :
    ∃ outcomes report, (task.run around entropy transcript store).1 = .ok report ∧
      report.tally = .ofOutcomes outcomes ∧ report.counters.matched = tokens.length ∧
      Progress.Changed c tokens outcomes (task.beginning entropy transcript store)
        (task.run around entropy transcript store).2 := by
  obtain ⟨hplain, -⟩ := task.run_cases entropy transcript hvalid hchosen
  have hstart : (task.beginning entropy transcript store).performer =
      .start (.change c) entropy := by rw [beginning, haction]
  -- A broken channel stays broken, so it has taken everything up to the last token too.
  have hfinish := (Progress.isBroken_congr hplain).symm.trans hwriter
  have hbroken : ((task.beginning entropy transcript store).performAll tokens).isBroken = false :=
    (Progress.toList_result_write hfinish).1
  have hstored : ∀ token ∈ tokens, store.get? token.serial = some token := fun token ht =>
    ((mem_of_chosen? hchosen).1 ht).1
  have hnodup : (tokens.map Token.serial).Nodup :=
    List.pairwise_map.2 ((pairwise_of_chosen? hchosen).imp fun h => h.ne)
  obtain ⟨outcomes, hchanged⟩ := Progress.performAll_change (by rw [hstart]; rfl) hstored hnodup
    hbroken
  obtain ⟨report, hreport, htally, hmatched⟩ := exists_report hvalid hchosen hfinish
  rw [Progress.finish_of_change (hchanged.performer_eq.trans hstart)] at hplain
  refine ⟨outcomes, report, hreport, ?_, hmatched, hchanged.congr hplain⟩
  rw [htally, hchanged.outcomes_eq]
  exact (congrArg _ (List.append_nil _)).trans (Tally.ofOutcomes_reverse outcomes)

/-- A channel without a limit takes everything that a run writes. -/
theorem isBroken_run (hvalid : task.action.validate store = .ok ())
    (hchosen : task.chosen? around store = some tokens) (hlimit : transcript.limit = none)
    (hbroken : transcript.isBroken = false) :
    (task.run around entropy transcript store).2.isBroken = false := by
  obtain ⟨hplain, -⟩ := task.run_cases entropy transcript hvalid hchosen
  rw [Progress.isBroken_congr hplain]
  obtain ⟨hlimit, hbroken⟩ := Progress.isBroken_performAll
    (p := task.beginning entropy transcript store) hlimit hbroken tokens
  exact (Transcript.isBroken_writeAll hlimit hbroken _).2

/-- What a run of a change has done to the tokens with the selected serials of a store and written
to a transcript, by its report and its last progress. -/
structure RunOfChange (c : Change) (store : Store) (transcript : Transcript) (serials : List String)
    (tokens : List Token) (outcomes : List Outcome) (report : Report) (last : Progress) : Prop where
  serials_tokens : tokens.map Token.serial = serials
  get?_eq : ∀ token ∈ tokens, store.get? token.serial = some token
  /-- There is one outcome for each selected serial, in their order. -/
  serials_outcomes : outcomes.map Outcome.serial = serials
  outcomes_eq : last.outcomes = outcomes.reverse
  accounts : AccountsInTurn c store last.store 0 tokens outcomes
  agreesOutside : Store.AgreesOutside serials last.store store
  tally_eq : report.tally = .ofOutcomes outcomes
  matched_eq : report.counters.matched = serials.length
  processed_eq : report.tally.processed = serials.length
  counted : report.tally.succeeded + report.tally.failed = serials.length
  skipped_eq : report.tally.skipped = 0
  /-- The results tell of the successes only. -/
  result_eq : last.transcript.result.toList =
    transcript.result.toList ++ (List.zipWith c.told tokens outcomes).flatten
  /-- The notes tell of the failures only, in one line for each. -/
  noteText_eq : last.transcript.noteText.toList =
    transcript.noteText.toList ++ outcomes.flatMap Outcome.noted

/-- The selected serials find the tokens. -/
theorem RunOfChange.map_some_eq {serials : List String} {outcomes : List Outcome} {report : Report}
    {last : Progress}
    (h : RunOfChange c store transcript serials tokens outcomes report last) :
    tokens.map some = serials.map store.get? := by
  rw [← h.serials_tokens, List.map_map]
  exact List.map_congr_left fun token ht => (h.get?_eq token ht).symm

/-- A run of a valid change, by writers that do not fail and on a store that is in memory or in a
file, changes exactly the selected tokens and isolates failures. -/
theorem run_change (haction : task.action = .change c)
    (hvalid : task.action.validate store = .ok ()) {serials : List String}
    (hselect : task.select? around store = some serials)
    (hwriter : (task.run around entropy transcript store).2.isBroken = false) :
    let r := task.run around entropy transcript store
    (serials.Pairwise fun a b => Text.utf8 a < Text.utf8 b) ∧
      (∀ serial, serial ∈ serials ↔ task.Selects around store serial) ∧
      ∃ report tokens outcomes, r.1 = .ok report ∧
        RunOfChange c store transcript serials tokens outcomes report r.2 := by
  intro r
  obtain ⟨tokens, hchosen, rfl⟩ := exists_chosen?_of_select? hselect
  obtain ⟨outcomes, report, hreport, htally, hmatched, hchanged⟩ :=
    exists_changed_of_run haction hvalid hchosen hwriter
  obtain ⟨hprocessed, hcount, hskipped⟩ := Tally.ofOutcomes_of_accounts hchanged.accounts
  rw [← htally] at hprocessed hcount hskipped
  have hserials : tokens.map Token.serial = outcomes.map Outcome.serial := by
    rw [← List.forall₂_eq_eq_eq, List.forall₂_map_left_iff, List.forall₂_map_right_iff]
    exact hchanged.accounts.forall₂.imp fun _ _ ⟨_, h⟩ => h.serial_eq.symm
  refine ⟨pairwise_of_select? hselect, fun _ => mem_of_select? hselect, report, tokens, outcomes,
    hreport, ?_⟩
  exact {
    serials_tokens := rfl
    get?_eq := fun token ht => ((mem_of_chosen? hchosen).1 ht).1
    serials_outcomes := hserials.symm
    outcomes_eq := hchanged.outcomes_eq.trans (List.append_nil _)
    accounts := hchanged.accounts
    agreesOutside := hchanged.agreesOutside
    tally_eq := htally
    matched_eq := by rw [hmatched, List.length_map]
    processed_eq := by rw [hprocessed, List.length_map]
    counted := by rw [hcount, List.length_map]
    skipped_eq := hskipped
    result_eq := hchanged.result_eq
    noteText_eq := hchanged.noteText_eq }

/-- Disabling two of three tokens in chunks of one, with a file that takes no second change. The
first token is disabled, the second one is as it was, and that it failed is noted. -/
theorem run_change_disable :
    let task : Task :=
      { admission := { tokenType := some "HOTP" }
        chunkSize := some ⟨1, by decide⟩
        action := .change .disable }
    let first : Token := { serial := "A1", tokenType := "hotp" }
    let second : Token := { serial := "C3", tokenType := "hotp" }
    let store : Store :=
      { tokens := ((TokenTable.empty.insert first).insert
          { serial := "B2", tokenType := "totp" }).insert second
        users := []
        realms := .empty
        file := some { content := "", accepts := fun n => n != 1 } }
    let r := task.run ⟨.universal, ⟨0, 0⟩⟩ ⟨fun _ => 0, 0⟩ {} store
    r.2.store.get? "A1" = some { first with active := false } ∧
      r.2.store.get? "C3" = some second ∧
      Store.AgreesOutside ["A1", "C3"] r.2.store store ∧
      r.2.transcript.result = "Disabling token A1\n" ∧
      r.2.transcript.noteText =
        "Failed to process token C3: Store I/O error: Is a directory (os error 21)\n" ∧
      ∃ report, r.1 = .ok report ∧ report.tally = ⟨2, 1, 1, 0⟩ := by
  intro task first second store r
  dsimp only [r]
  have hselect : task.select? ⟨.universal, ⟨0, 0⟩⟩ store = some ["A1", "C3"] := by decide +kernel
  have hvalid : task.action.validate store = .ok () := rfl
  obtain ⟨tokens, hchosen, -⟩ := exists_chosen?_of_select? hselect
  have hwriter : (task.run ⟨.universal, ⟨0, 0⟩⟩ ⟨fun _ => 0, 0⟩ {} store).2.isBroken = false :=
    isBroken_run hvalid hchosen rfl rfl
  obtain ⟨-, -, report, tokens, outcomes, hreport, hrun⟩ := run_change rfl hvalid hselect hwriter
  have hfound : ["A1", "C3"].map store.get? = [first, second].map some := by
    simp [store, first, second, Store.get?, TokenTable.get?_insert]
  obtain rfl : tokens = [first, second] :=
    List.map_injective_iff.2 (Option.some_injective _) (hrun.map_some_eq.trans hfound)
  rcases hrun.accounts with _ | ⟨hfirst, hrest⟩
  rcases hrest with _ | ⟨hsecond, hrest⟩
  rcases hrest with _ | _
  have hwritten : (Change.disable.plan first).effect.error? store 0 = none := rfl
  have hrefused : (Change.disable.plan second).effect.error? store 1 =
      some (.file .refused) := rfl
  rcases hfirst with ⟨hdisabled, -⟩ | ⟨_, -, hsome⟩
  · rcases hsecond with ⟨-, hnone⟩ | ⟨e, hkept, hsome⟩
    · cases hnone.symm.trans hrefused
    · cases hsome.symm.trans hrefused
      have htold := hrun.result_eq.trans
        (by decide +kernel : _ = "Disabling token A1\n".toList)
      have hnoted := hrun.noteText_eq.trans (by decide +kernel :
        _ = "Failed to process token C3: Store I/O error: Is a directory (os error 21)\n".toList)
      exact ⟨hdisabled, hkept, hrun.agreesOutside, String.toList_inj.1 htold,
        String.toList_inj.1 hnoted, report, hreport, hrun.tally_eq⟩
  · cases hsome.symm.trans hwritten

end Task

end TokenInventory
