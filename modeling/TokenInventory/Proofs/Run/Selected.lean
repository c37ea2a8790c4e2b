import TokenInventory.Proofs.Run.Chunking
import TokenInventory.Proofs.Selection.Criteria
import TokenInventory.Proofs.Text.ByteOrder

/-!
# The serials that a task selects

Selecting without acting goes through the batches of a store that does not change, and gives the
serials of the tokens that the task chooses from the whole store (`Task.select?_eq`). They are the
serials of the stored tokens that are admitted and pass every check, each once, in the order of
their bytes (`Task.mem_of_select?`, `Task.pairwise_of_select?`).
-/

namespace TokenInventory

theorem Selection.select?_append (around : Circumstances) (users : List User)
    (selection : Selection) (batch batch' : List Token) :
    selection.select? around users (batch ++ batch') =
      (selection.select? around users batch).bind fun chosen =>
        (selection.select? around users batch').map fun chosen' => chosen ++ chosen' := by
  ext tokens
  simp only [select?_append_eq_some_iff, Option.bind_eq_some_iff, Option.map_eq_some_iff]
  constructor
  · rintro ⟨chosen, chosen', hchosen, hchosen', rfl⟩
    exact ⟨chosen, hchosen, chosen', hchosen', rfl⟩
  · rintro ⟨chosen, hchosen, chosen', hchosen', rfl⟩
    exact ⟨chosen, chosen', hchosen, hchosen', rfl⟩

namespace Task

variable {task : Task} {around : Circumstances} {store : Store} {serials : List String}

/-- Whether a token with a serial is stored, admitted and passes every check of the selection. -/
def Selects (task : Task) (around : Circumstances) (store : Store) (serial : String) : Prop :=
  ∃ token, store.get? serial = some token ∧ task.admission.admits token = true ∧
    task.selection.IsMet around store.users token

/-- The batches of a store that does not change make up the rest of a scan. -/
theorem selectFrom?_eq {fuel : Nat} {scan : Scan} (hfuel : scan.left store < fuel) :
    task.selectFrom? around store fuel scan =
      (task.selection.select? around store.users (scan.rest store)).map
        (List.map Token.serial) := by
  induction fuel generalizing scan with
  | zero => exact absurd hfuel (Nat.not_lt_zero _)
  | succ fuel ih =>
    rw [selectFrom?]
    rcases hnext : scan.next store with ⟨_ | batch, scan'⟩
    · rw [Scan.rest_eq_nil_of_next hnext]
      rfl
    · have hleft := Scan.left_lt hnext
      dsimp only
      rw [ih (by omega), ← Scan.next_some hnext, Selection.select?_append]
      cases task.selection.select? around store.users batch with
      | none => rfl
      | some chosen =>
        cases task.selection.select? around store.users (scan'.rest store) with
        | none => rfl
        | some later => exact congrArg some List.map_append.symm

theorem select?_eq (task : Task) (around : Circumstances) (store : Store) :
    task.select? around store = (task.chosen? around store).map (List.map Token.serial) := by
  rw [select?, selectFrom?_eq (task.left_scan_lt store), rest_scan, chosen?]

/-- The selected serials are those of the chosen tokens. -/
theorem exists_chosen?_of_select? (h : task.select? around store = some serials) :
    ∃ tokens, task.chosen? around store = some tokens ∧ tokens.map Token.serial = serials := by
  rw [select?_eq] at h
  exact Option.map_eq_some_iff.1 h

/-- What a task chooses. -/
theorem mem_of_chosen? {tokens : List Token} (h : task.chosen? around store = some tokens)
    {token : Token} : token ∈ tokens ↔ store.get? token.serial = some token ∧
      task.admission.admits token = true ∧ task.selection.IsMet around store.users token := by
  obtain ⟨-, rfl⟩ := Selection.select?_eq_some_iff.1 h
  rw [List.mem_filter, Store.mem_fetch_iff, decide_eq_true_iff, Selection.accepts?_eq_some_true_iff,
    and_assoc, and_assoc]
  simp [TokenTable.IsAfter]

theorem pairwise_of_chosen? {tokens : List Token} (h : task.chosen? around store = some tokens) :
    tokens.Pairwise fun a b => a.serial < b.serial := by
  obtain ⟨-, rfl⟩ := Selection.select?_eq_some_iff.1 h
  exact (store.pairwise_fetch task.admission none none).filter _

theorem mem_of_select? (h : task.select? around store = some serials) {serial : String} :
    serial ∈ serials ↔ task.Selects around store serial := by
  obtain ⟨tokens, hchosen, rfl⟩ := exists_chosen?_of_select? h
  rw [List.mem_map]
  constructor
  · rintro ⟨token, ht, rfl⟩
    exact ⟨token, (mem_of_chosen? hchosen).1 ht⟩
  · rintro ⟨token, hget, hadmits, hmet⟩
    have hserial : token.serial = serial := store.tokens.keyed serial token hget
    exact ⟨token, (mem_of_chosen? hchosen).2 ⟨hserial ▸ hget, hadmits, hmet⟩, hserial⟩

/-- The selected serials ascend by their bytes. -/
theorem pairwise_of_select? (h : task.select? around store = some serials) :
    serials.Pairwise fun a b => Text.utf8 a < Text.utf8 b := by
  obtain ⟨tokens, hchosen, rfl⟩ := exists_chosen?_of_select? h
  rw [List.pairwise_map]
  exact (pairwise_of_chosen? hchosen).imp Text.utf8_lt_iff.2

end Task

end TokenInventory
