import TokenInventory.Action.Outcome

/-!
# Counting outcomes

A tally counts outcomes one by one as they come. Its counters are those of all outcomes counted at
the end (`Tally.ofOutcomes`), in whatever direction (`ofOutcomes_cons`, `ofOutcomes_reverse`), and
every outcome is counted in one of the three ways (`processed_ofOutcomes`).
-/

namespace TokenInventory.Tally

/-- The tally of all outcomes. -/
def ofOutcomes (outcomes : List Outcome) : Tally where
  processed := outcomes.length
  succeeded := outcomes.countP Outcome.isSuccess
  failed := outcomes.countP Outcome.isFailure
  skipped := outcomes.countP Outcome.isSkip

/-- One more outcome is recorded. -/
theorem ofOutcomes_cons (outcome : Outcome) (outcomes : List Outcome) :
    ofOutcomes (outcome :: outcomes) = (ofOutcomes outcomes).record outcome := by
  obtain ⟨serial, status, detail⟩ := outcome
  cases status <;>
    simp [ofOutcomes, record, Outcome.isSuccess, Outcome.isFailure, Outcome.isSkip]

theorem ofOutcomes_reverse (outcomes : List Outcome) :
    ofOutcomes outcomes.reverse = ofOutcomes outcomes := by
  simp only [ofOutcomes, List.length_reverse, List.countP_reverse]

/-- Every outcome is a success, a failure or a token that was left out. -/
theorem processed_ofOutcomes (outcomes : List Outcome) :
    (ofOutcomes outcomes).processed = (ofOutcomes outcomes).succeeded +
      (ofOutcomes outcomes).failed + (ofOutcomes outcomes).skipped := by
  induction outcomes with
  | nil => rfl
  | cons outcome outcomes ih =>
    rw [ofOutcomes_cons, record]
    cases outcome.status <;> dsimp only <;> omega

end TokenInventory.Tally
