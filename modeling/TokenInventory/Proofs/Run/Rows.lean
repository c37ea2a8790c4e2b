import TokenInventory.Proofs.Exchange.Row
import TokenInventory.Proofs.Run.Calls
import TokenInventory.Proofs.Run.Totals

/-!
# Runs that export rows

Wherever a run that exports rows ends, its results are the rows of the tokens whose export
succeeded, each with a line break after it, in the order of the outcomes (`Progress.HasRows`): a row
is written in one piece, so a channel that breaks has all of it or nothing, and an outcome counts
only if its row was written. Whether the rows are read back as they were written is up to their free
fields (`Task.run_exportRows`).
-/

namespace TokenInventory

/-- The rows, each on a line. -/
def ExportedRow.lines (rows : List ExportedRow) : List Char :=
  rows.flatMap fun row => row.text.toList ++ ['\n']

theorem ExportedRow.lines_append (rows rows' : List ExportedRow) :
    lines (rows ++ rows') = lines rows ++ lines rows' :=
  List.flatMap_append

/-- Whether a progress has come from one with the given results by exporting the given rows. -/
structure Progress.HasRows (x : Exporting) (result : List Char) (rows : List ExportedRow)
    (p : Progress) : Prop where
  performer : ∃ count, p.performer.Exports x count
  store_eq : p.store = x.store
  isOf : ∀ row ∈ rows, row.IsOf x.store x.inBase32
  serials_eq : (p.outcomes.reverse.filter Outcome.isSuccess).map Outcome.serial =
    rows.map fun row => row.token.serial
  result_eq : p.transcript.result.toList = result ++ ExportedRow.lines rows

/-- Whether a step writes the given rows in one piece, one if it succeeds and none otherwise. -/
structure Step.WritesRows (x : Exporting) (rows : List ExportedRow) (step : Step) : Prop where
  outputs_eq : ∃ output, step.outputs = [output] ∧ output.resultChars = ExportedRow.lines rows
  performer : ∃ count, step.performer.Exports x count
  store_eq : step.store = x.store
  isOf : ∀ row ∈ rows, row.IsOf x.store x.inBase32
  serials_eq : ([step.outcome].filter Outcome.isSuccess).map Outcome.serial =
    rows.map fun row => row.token.serial

variable {x : Exporting} {count : Nat} {token : Token}

namespace Performer.Exports

variable {p : Performer}

theorem writesRows_step (h : p.Exports x count) (hformat : x.format = .rows)
    (hget : x.store.get? token.serial = some token) :
    ∃ rows, (p.step x.store token).WritesRows x rows := by
  rcases h.exported_cases token with ⟨-, text, q, hencodes, hq, heq⟩ | ⟨e, hrefuses, heq⟩
  · rw [Exporting.Encodes, hformat] at hencodes
    obtain ⟨_, hrow, rfl⟩ := hencodes
    obtain ⟨row, hof, rfl, rfl⟩ := ExportedRow.exists_of_exportedRow hget hrow
    rw [h.step_of_ok heq]
    have hchars : (Text.line row.text).toList = ExportedRow.lines [row] := by
      rw [ExportedRow.lines, List.flatMap_singleton]
      exact String.toList_append
    exact ⟨[row], ⟨_, rfl, hchars⟩, ⟨count + 1, hq⟩, rfl, List.forall_mem_singleton.2 hof, rfl⟩
  · rw [h.step_of_error heq]
    refine ⟨[], ⟨_, rfl, rfl⟩, ⟨count, h⟩, rfl, List.forall_mem_nil _, ?_⟩
    cases hrefuses <;> rfl

/-- Nothing follows the last row. -/
theorem finish_rows (h : p.Exports x count) (hformat : x.format = .rows) : p.finish = [] := by
  rw [Performer.finish, h.writeHead_eq]
  dsimp only
  rw [h.summary_eq, h.container_eq, if_neg (by rw [hformat]; decide)]
  rfl

end Performer.Exports

namespace Progress

variable {result : List Char} {rows : List ExportedRow} {p q : Progress}

theorem HasRows.congr (hplain : p.plain = q.plain) (h : p.HasRows x result rows) :
    q.HasRows x result rows := by
  obtain ⟨hstore, hperformer, htranscript, houtcomes, -⟩ := plain_eq_iff.1 hplain
  obtain ⟨hexports, hsame, hof, hserials, hresult⟩ := h
  rw [hperformer] at hexports
  rw [hstore] at hsame
  rw [houtcomes] at hserials
  rw [Transcript.result_congr htranscript] at hresult
  exact ⟨hexports, hsame, hof, hserials, hresult⟩

/-- The export of a token adds a row, or nothing. -/
theorem HasRows.perform (h : p.HasRows x result rows) (hformat : x.format = .rows)
    (hget : x.store.get? token.serial = some token) :
    ∃ more, (p.perform token).HasRows x result (rows ++ more) := by
  obtain ⟨⟨count, hexports⟩, hstore, hof, hserials, hresult⟩ := h
  obtain ⟨more, hstep⟩ := hexports.writesRows_step hformat hget
  rw [← hstore] at hstep
  obtain ⟨output, houtputs, hchars⟩ := hstep.outputs_eq
  have hperformer : ∃ count, (p.perform token).performer.Exports x count := by
    rcases p.perform_cases token with ⟨-, heq⟩ | ⟨-, heq⟩ <;> rw [heq]
    · exact ⟨count, hexports⟩
    · exact hstep.performer
  have hsame : (p.perform token).store = x.store := by
    rcases p.perform_cases token with ⟨heq, -⟩ | ⟨heq, -⟩ <;> rw [heq]
    · exact hstore
    · exact hstep.store_eq
  rcases perform_cases_of_single houtputs with ⟨houtcomes, hlast⟩ | ⟨houtcomes, hlast⟩
  · refine ⟨[], hperformer, hsame, ?_, ?_, ?_⟩ <;> rw [List.append_nil]
    · exact hof
    · rw [houtcomes, hserials]
    · rw [hlast, hresult]
  · refine ⟨more, hperformer, hsame, List.forall_mem_append.2 ⟨hof, hstep.isOf⟩, ?_, ?_⟩
    · rw [houtcomes, List.reverse_cons, List.filter_append, List.map_append, List.map_append,
        hserials, hstep.serials_eq]
    · rw [hlast, hresult, hchars, ExportedRow.lines_append, List.append_assoc]

theorem HasRows.performAll (h : p.HasRows x result rows) (hformat : x.format = .rows)
    {tokens : List Token} (htokens : ∀ token ∈ tokens, x.store.get? token.serial = some token) :
    ∃ more, (p.performAll tokens).HasRows x result (rows ++ more) := by
  induction tokens generalizing p rows with
  | nil => exact ⟨[], by rwa [List.append_nil]⟩
  | cons token tokens ih =>
    rw [List.forall_mem_cons] at htokens
    obtain ⟨first, hfirst⟩ := h.perform hformat htokens.1
    obtain ⟨later, hlater⟩ := ih hfirst htokens.2
    exact ⟨first ++ later, by rwa [← List.append_assoc]⟩

end Progress

namespace Task

variable {task : Task} {around : Circumstances} {scan scan' : Scan} {p : Progress}
  {result : List Char} {rows : List ExportedRow} {r : Except RunError Unit × Progress}

theorem hasRows_afterBatch (h : p.HasRows x result rows) (hformat : x.format = .rows)
    {batch tokens : List Token} (hnext : scan.next p.store = (some batch, scan'))
    (hselect : task.selection.select? around p.store.users batch = some tokens) :
    ∃ more, (p.afterBatch batch tokens).HasRows x result (rows ++ more) := by
  have hstored : ∀ token ∈ tokens, x.store.get? token.serial = some token := fun token ht => by
    have hrest := (scan.stored_rest p.store).1
    rw [← Scan.next_some hnext, h.store_eq] at hrest
    exact hrest token (List.mem_append_left _ (Selection.subset_of_select? hselect ht))
  obtain ⟨more, hrows⟩ := h.performAll hformat hstored
  exact ⟨more, hrows.congr (p.plain_afterBatch batch tokens).symm⟩

/-- However a loop ends, it has added rows. -/
theorem Loop.hasRows (hloop : task.Loop around scan p r) (hformat : x.format = .rows)
    (h : p.HasRows x result rows) : ∃ more, r.2.HasRows x result (rows ++ more) := by
  induction hloop generalizing rows with
  | ended | beyond => exact ⟨[], by rwa [List.append_nil]⟩
  | broken hnext hselect => exact hasRows_afterBatch h hformat hnext hselect
  | more hnext hselect _ _ ih =>
    obtain ⟨first, hfirst⟩ := hasRows_afterBatch h hformat hnext hselect
    obtain ⟨later, hlater⟩ := ih hfirst
    exact ⟨first ++ later, by rwa [← List.append_assoc]⟩

/-- Wherever a run ends, it has written rows. -/
theorem exists_rows_of_run (around : Circumstances) (entropy : Entropy) (transcript : Transcript)
    (store : Store) {inBase32 : Bool} (haction : task.action = .exportAs .rows inBase32) :
    ∃ key macKey rows, (task.run around entropy transcript store).2.HasRows
      ⟨.rows, inBase32, key, macKey, store⟩ transcript.result.toList rows := by
  obtain ⟨key, macKey, hstart, -, -⟩ := Performer.exports_start .rows inBase32 entropy store
  have hbeginning : (task.beginning entropy transcript store).HasRows
      ⟨.rows, inBase32, key, macKey, store⟩ transcript.result.toList [] := by
    refine ⟨⟨0, ?_⟩, rfl, List.forall_mem_nil _, rfl, (List.append_nil _).symm⟩
    rw [beginning, haction]
    exact hstart
  refine ⟨key, macKey, ?_⟩
  cases hvalid : task.action.validate store with
  | error reason =>
    rw [run_of_validate_error hvalid]
    exact ⟨[], hbeginning⟩
  | ok _ =>
    have hopening := hbeginning.congr (task.plain_opening entropy transcript store).symm
    obtain ⟨rows, hrows⟩ := (task.loop_run around entropy transcript store).hasRows rfl hopening
    rw [run_of_validate_ok hvalid]
    generalize task.proceed around (store.size + 2) task.scan
      (task.opening entropy transcript store) = r at hrows
    refine ⟨rows, ?_⟩
    obtain ⟨_ | _, p⟩ := r
    · exact hrows
    · obtain ⟨count, hexports⟩ := hrows.performer
      have hfinish : p.finish = p := by
        rw [Progress.finish, hexports.finish_rows rfl]
        rfl
      rw [ofLoop, conclude, hfinish]
      split_ifs
      · exact hrows
      · exact hrows.congr (Progress.plain_write_events p _).symm

/-- Wherever a run that exports rows ends, its results are the rows of the tokens whose export
succeeded, in their order. They are these lines exactly if no free field has a line break in it, and
a row is taken apart into its fields exactly if no free field of it has a comma with a blank in it.
Rows that are taken apart tell their tokens apart. -/
theorem run_exportRows (task : Task) (around : Circumstances) (entropy : Entropy)
    (transcript : Transcript) (store : Store) {inBase32 : Bool}
    (haction : task.action = .exportAs .rows inBase32) :
    let r := task.run around entropy transcript store
    ∃ rows : List ExportedRow,
      r.2.transcript.result.toList = transcript.result.toList ++ ExportedRow.lines rows ∧
      (r.2.outcomes.reverse.filter Outcome.isSuccess).map Outcome.serial =
        rows.map (fun row => row.token.serial) ∧
      (∀ row ∈ rows, row.IsOf store inBase32) ∧
      ((ExportedRow.lines rows).splitOn '\n' = rows.map (fun row => row.text.toList) ++ [[]] ↔
        ∀ row ∈ rows, ∀ field ∈ row.freeFields inBase32, '\n' ∉ field.toList) ∧
      (∀ row ∈ rows, Text.splitWord fieldBreak row.text.toList = row.fields.map String.toList ↔
        row.IsSeparable inBase32) ∧
      ∀ row ∈ rows, ∀ (store' : Store) (row' : ExportedRow), row'.IsOf store' inBase32 →
        row.IsSeparable inBase32 → row'.IsSeparable inBase32 → row.text = row'.text →
        row.Agrees inBase32 row' := by
  intro r
  obtain ⟨key, macKey, rows, hrows⟩ :=
    exists_rows_of_run around entropy transcript store haction
  have hof := hrows.isOf
  refine ⟨rows, hrows.result_eq, hrows.serials_eq, hof, ?_, fun row hrow =>
    (hof row hrow).splitWord_text_iff, fun row hrow store' row' hof' =>
    (hof row hrow).agrees_of_text_eq hof'⟩
  have hlines : ExportedRow.lines rows =
      (rows.map fun row => row.text.toList).flatMap (· ++ ['\n']) := by
    rw [List.flatMap_map]
    rfl
  rw [hlines, Text.splitOn_ended_iff, List.forall_mem_map]
  exact forall₂_congr fun row hrow => (hof row hrow).lineBreak_not_mem_text_iff

/-- The rows of a token with an owner and of one without, with seeds in base 32. -/
theorem run_exportRows_two_tokens :
    let task : Task := { action := .exportAs .rows true }
    let store : Store :=
      { tokens :=
          (TokenTable.empty.insert { serial := "A1", tokenType := "HOTP", seed := "3a"
                                     owner := some ⟨"1", "r", "corp"⟩ }).insert
            { serial := "B2", tokenType := "totp", seed := "31", passwordLength := 8 }
        users := [{ uid := "1", resolver := "r", realm := "corp", username := "bob" }]
        realms := .empty
        file := none }
    ∃ rows : List ExportedRow, rows.map (fun row => row.token.serial) = ["A1", "B2"] ∧
      (∀ row ∈ rows, row.IsOf store true) ∧
      (task.run ⟨.universal, ⟨0, 0⟩⟩ ⟨fun _ => 0, 0⟩ {} store).2.transcript.result.toList =
        ExportedRow.lines rows ∧
      ExportedRow.lines rows =
        "bob@corp, A1, HI======, hotp, 6\nn/a, B2, GE======, totp, 8, 30\n".toList := by
  intro task store
  obtain ⟨rows, hresult, hserials, hof, -⟩ :=
    run_exportRows task ⟨.universal, ⟨0, 0⟩⟩ ⟨fun _ => 0, 0⟩ {} store rfl
  rw [show ({} : Transcript).result.toList = [] from rfl, List.nil_append] at hresult
  refine ⟨rows, ?_, hof, hresult, ?_⟩
  · rw [← hserials]
    decide +kernel
  · rw [← hresult]
    refine congrArg String.toList ?_
    decide +kernel

/-- A serial and a seed with a comma and a blank in them make the row of another token, and a time
step with a line break in it makes one more line: three tokens are exported as four lines, of which
two are the same. -/
theorem run_exportRows_forged :
    let task : Task := { action := .exportAs .rows false }
    let store : Store :=
      { tokens :=
          ((TokenTable.empty.insert { serial := "A", tokenType := "hotp", seed := "B, 31" }).insert
            { serial := "A, B", tokenType := "hotp", seed := "31" }).insert
              { serial := "T", tokenType := "totp", seed := "32"
                info := SortedMap.empty.insert "timeStep" "30\nn/a, U, 33, hotp, 6" }
        users := []
        realms := .empty
        file := none }
    let r := task.run ⟨.universal, ⟨0, 0⟩⟩ ⟨fun _ => 0, 0⟩ {} store
    (r.2.outcomes.reverse.filter Outcome.isSuccess).map Outcome.serial = ["A", "A, B", "T"] ∧
      r.2.transcript.result.toList.splitOn '\n' =
        ["n/a, A, B, 31, hotp, 6".toList, "n/a, A, B, 31, hotp, 6".toList,
          "n/a, T, 32, totp, 6, 30".toList, "n/a, U, 33, hotp, 6".toList, []] := by
  intro _ _ r
  have hresult : r.2.transcript.result = "n/a, A, B, 31, hotp, 6\nn/a, A, B, 31, hotp, 6\n" ++
      "n/a, T, 32, totp, 6, 30\nn/a, U, 33, hotp, 6\n" := by
    decide +kernel
  refine ⟨by decide +kernel, ?_⟩
  rw [hresult]
  decide +kernel

end Task

end TokenInventory
