import TokenInventory.Selection.Basic

/-!
# Choosing from a batch

A selection chooses from a batch the tokens it accepts, in their order, if it can decide them all
(`select?_eq_some_iff`). So the tokens chosen from two batches in a row are those chosen from both
taken as one batch (`select?_append_eq_some_iff`).
-/

namespace TokenInventory.Selection

variable {around : Circumstances} {users : List User} {selection : Selection}
  {batch batch' tokens : List Token}

theorem select?_cons (token : Token) (batch : List Token) :
    selection.select? around users (token :: batch) =
      (selection.accepts? around users token).bind fun isSelected =>
        (selection.select? around users batch).map fun tokens =>
          if isSelected then token :: tokens else tokens := by
  simp only [select?, List.filterMapM_cons]
  cases selection.accepts? around users token with
  | none => rfl
  | some isSelected =>
    simp only [Option.map_eq_bind, Function.comp_def, Option.bind_some]
    cases isSelected <;> simp

theorem select?_eq_some_iff : selection.select? around users batch = some tokens ↔
    (∀ token ∈ batch, selection.accepts? around users token ≠ none) ∧
      tokens = batch.filter fun token => selection.accepts? around users token = some true := by
  induction batch generalizing tokens with
  | nil => simp [select?, eq_comm]
  | cons token batch ih =>
    rw [select?_cons, List.forall_mem_cons]
    cases haccepts : selection.accepts? around users token with
    | none => simp
    | some isSelected =>
      simp only [Option.bind_some, Option.map_eq_some_iff, ih, ne_eq, reduceCtorEq,
        not_false_eq_true, true_and, List.filter_cons, haccepts, Option.some.injEq]
      constructor
      · rintro ⟨later, ⟨hdecided, rfl⟩, rfl⟩
        refine ⟨hdecided, ?_⟩
        cases isSelected <;> rfl
      · rintro ⟨hdecided, rfl⟩
        refine ⟨_, ⟨hdecided, rfl⟩, ?_⟩
        cases isSelected <;> rfl

theorem select?_append_eq_some_iff :
    selection.select? around users (batch ++ batch') = some tokens ↔
      ∃ chosen chosen', selection.select? around users batch = some chosen ∧
        selection.select? around users batch' = some chosen' ∧ tokens = chosen ++ chosen' := by
  simp only [select?_eq_some_iff, List.forall_mem_append, List.filter_append]
  constructor
  · rintro ⟨⟨hdecided, hdecided'⟩, rfl⟩
    exact ⟨_, _, ⟨hdecided, rfl⟩, ⟨hdecided', rfl⟩, rfl⟩
  · rintro ⟨_, _, ⟨hdecided, rfl⟩, ⟨hdecided', rfl⟩, rfl⟩
    exact ⟨⟨hdecided, hdecided'⟩, rfl⟩

theorem subset_of_select? (h : selection.select? around users batch = some tokens) :
    tokens ⊆ batch := by
  obtain ⟨-, rfl⟩ := select?_eq_some_iff.1 h
  exact List.filter_sublist.subset

end TokenInventory.Selection
