import TokenInventory.Proofs.Criteria.Trichotomy

/-!
# Expressions and options agree

A comparison on an info entry can be written as an expression, which takes the domain from the table
of the fields, or be asked for by an option, which has a domain of its own. Where an option stands
for the same as an operator on the domain of the field (`Corresponds`), both give the same
criterion, so they are refused together or make the same filter (`FieldFilter.ofInfo_agreement`).
-/

namespace TokenInventory

/-- Which option asks for the same as an operator does on a field of a domain. -/
inductive Corresponds : OperatorSign → Domain → ValueOption → Prop
  | greater : Corresponds .atLeast .integer .greaterThan
  | smaller : Corresponds .atMost .integer .lessThan
  | later : Corresponds .atLeast .datetime .after
  | earlier : Corresponds .atMost .datetime .before
  | equal : Corresponds .equal .string .value

namespace Corresponds

variable {sign : OperatorSign} {domain : Domain} {option : ValueOption}

theorem standsFor (h : Corresponds sign domain option) :
    StandsFor sign domain option.operator := by
  cases h <;> constructor

theorem domain_eq (h : Corresponds sign domain option) : option.domain = domain := by
  cases h <;> rfl

end Corresponds

/-- A criterion whose operator applies to its domain can only be refused for its operand. -/
theorem Comparison.ofCriterion_of_standsFor (zone : Zone) (limit : Nat) {sign : OperatorSign}
    {domain : Domain} {operator : Operator} (h : StandsFor sign domain operator)
    (field operand : String) :
    ofCriterion zone limit { field, operator, operand, domain } =
        .error (.invalidOperand field domain operand) ∨
      ∃ comparison,
        ofCriterion zone limit { field, operator, operand, domain } = .ok comparison := by
  by_cases hdomain : domain = .string
  · subst hdomain
    cases h
    unfold ofCriterion
    cases Pattern.ofText? limit operand with
    | none => exact .inl rfl
    | some pattern => exact .inr ⟨_, rfl⟩
  · exact (ofCriterion_isSplit zone limit hdomain field operand).imp (· sign operator h)
      fun ⟨comparisons, hmade, _⟩ => ⟨comparisons sign, hmade sign operator h⟩

namespace FieldFilter

variable {zone : Zone} {limit : Nat} {key operand : String} {domain : Domain} {sign : OperatorSign}
  {option : ValueOption}

/-- An expression with any blanks in it makes the filter that the option makes. -/
theorem ofInfo_of_hasForm {expression : String} (hkey : (key, domain) ∈ Scope.info.fields)
    (hoption : Corresponds sign domain option)
    (hform : HasForm expression.toList key.toList sign operand.toList) :
    ofInfo zone limit (some expression) none {} =
      ofInfo zone limit none (some key) (option.alone operand) := by
  rw [ofInfo_of_ofExpression (Criterion.ofExpression_eq_ok hform hkey hoption.standsFor),
    ofInfo_alone, ValueOption.criterion, hoption.domain_eq]

/-- On a declared info entry, the expression with an operator and a value and the option that
corresponds to the operator are both refused, since the entry cannot be compared with the value, or
they make the same filter. -/
theorem ofInfo_agreement (zone : Zone) (limit : Nat) (hkey : (key, domain) ∈ Scope.info.fields)
    (hoption : Corresponds sign domain option) (hne : operand ≠ "")
    (htrimmed : Text.trimmed operand = operand) :
    (ofInfo zone limit (some (sign.expression key operand)) none {} =
        .error (.invalidOperand key domain operand) ∧
      ofInfo zone limit none (some key) (option.alone operand) =
        .error (.invalidOperand key domain operand)) ∨
    ∃ filter, ofInfo zone limit (some (sign.expression key operand)) none {} = .ok (some filter) ∧
      ofInfo zone limit none (some key) (option.alone operand) = .ok (some filter) := by
  have hvalue : Text.trim operand.toList ≠ [] := fun hnil => by
    rw [Text.trimmed, hnil] at htrimmed
    exact hne htrimmed.symm
  have hform := hasForm_expression hkey hvalue sign
  rw [htrimmed] at hform
  rw [ofInfo_of_hasForm hkey hoption hform, ofInfo_alone, ofCriteria_singleton,
    ValueOption.criterion, hoption.domain_eq]
  rcases Comparison.ofCriterion_of_standsFor zone limit hoption.standsFor key operand with
    h | ⟨comparison, h⟩
  · exact .inl ⟨by rw [h]; rfl, by rw [h]; rfl⟩
  · exact .inr ⟨_, by rw [h]; rfl, by rw [h]; rfl⟩

/-- The value may hold an operator of its own. -/
theorem ofInfo_agreement_operator : Text.trimmed "sha>=1" = "sha>=1" ∧
    ∃ filter, ofInfo .universal 1000 (some "hashlib == sha>=1") none {} = .ok (some filter) ∧
      ofInfo .universal 1000 none (some "hashlib") { value := some "sha>=1" } =
        .ok (some filter) := by
  have hkey : ("hashlib", Domain.string) ∈ Scope.info.fields := by decide
  have htrimmed : Text.trimmed "sha>=1" = "sha>=1" := by decide
  refine ⟨htrimmed, ?_⟩
  refine (ofInfo_agreement .universal 1000 hkey .equal (by decide) htrimmed).resolve_left
    fun h => ?_
  cases h.2

end FieldFilter

end TokenInventory
