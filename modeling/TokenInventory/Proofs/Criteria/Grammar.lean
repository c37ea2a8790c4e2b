import Mathlib.Data.List.Nodup
import TokenInventory.Proofs.Criteria.FirstOperator
import TokenInventory.Proofs.Text.Blank

/-!
# The grammar of filter expressions

A filter expression is a field, an operator and a value with blanks around them (`HasForm`), and the
operator has to stand for something on the domain of the field (`StandsFor`). Exactly these
expressions are read, and what is read is what was written. An expression on a field that is not
declared is refused as such, all else as malformed (`Criterion.ofExpression_grammar`).
-/

namespace TokenInventory

open Text

/-- Whether a text is a field, an operator and a value with blanks around each of them, where the
operator is the first one in the text and the value is neither empty nor padded itself. -/
structure HasForm (s field : List Char) (sign : OperatorSign) (value : List Char) : Prop where
  exists_padded : ∃ left right,
    StandsFirst s left sign right ∧ IsPadded left field ∧ IsPadded right value
  value_ne_nil : value ≠ []
  trim_value : trim value = value

/-- What each operator stands for: equality on every domain, order on numbers and dates. -/
inductive StandsFor : OperatorSign → Domain → Operator → Prop
  | equal (domain : Domain) : StandsFor .equal domain .eq
  | greater : StandsFor .atLeast .integer .gt
  | later : StandsFor .atLeast .datetime .after
  | smaller : StandsFor .atMost .integer .lt
  | earlier : StandsFor .atMost .datetime .before

theorem OperatorSign.operator?_eq_some_iff {sign : OperatorSign} {domain : Domain}
    {operator : Operator} : sign.operator? domain = some operator ↔
      StandsFor sign domain operator := by
  constructor
  · intro h
    cases sign <;> cases domain <;> cases h <;> constructor
  · rintro (_ | _) <;> rfl

/-- On all domains but texts every operator stands for something. -/
theorem StandsFor.exists_of_ne {domain : Domain} (hdomain : domain ≠ .string)
    (sign : OperatorSign) : ∃ operator, StandsFor sign domain operator := by
  cases domain <;> cases sign
  case string.equal | string.atLeast | string.atMost => exact absurd rfl hdomain
  all_goals exact ⟨_, by constructor⟩

/-! ## Field names -/

theorem of_mem_of_isFieldName {s : List Char} (h : isFieldName s = true) {c : Char} (hc : c ∈ s) :
    c.isAlphanum = true ∨ c = '_' ∨ c = '.' ∨ c = '-' := by
  cases s with
  | nil => cases hc
  | cons d s =>
    simp only [isFieldName, Bool.and_eq_true, Bool.or_eq_true, beq_iff_eq, List.all_eq_true] at h
    rcases List.mem_cons.1 hc with rfl | hc
    · exact h.1.imp (fun halpha => Bool.or_eq_true_iff.2 (.inl halpha)) .inl
    · simpa only [or_assoc] using h.2 c hc

theorem trim_of_isFieldName {s : List Char} (h : isFieldName s = true) : trim s = s := by
  refine trim_of_forall_not_blank fun c hc => ?_
  rcases of_mem_of_isFieldName h hc with halphanum | rfl | rfl | rfl
  · exact isBlank_of_isAlphanum halphanum
  all_goals decide

/-- No operator begins in a field name. -/
theorem ne_of_mem_of_isFieldName {s : List Char} (h : isFieldName s = true) {c : Char}
    (hc : c ∈ s) : c ≠ '=' ∧ c ≠ '>' ∧ c ≠ '<' := by
  refine ⟨?_, ?_, ?_⟩ <;> rintro rfl <;> exact absurd (of_mem_of_isFieldName h hc) (by decide)

namespace Scope

theorem nodup_fields (scope : Scope) : (scope.fields.map Prod.fst).Nodup := by
  cases scope <;> decide

theorem isFieldName_of_mem_fields {scope : Scope} {field : String} {domain : Domain}
    (h : (field, domain) ∈ scope.fields) : isFieldName field.toList = true := by
  have hall : ∀ row ∈ scope.fields, isFieldName row.1.toList = true := by
    cases scope <;> decide
  exact hall _ h

/-- The domain of a field is that of its row in the table. -/
theorem domain?_eq_some_iff {scope : Scope} {field : String} {domain : Domain} :
    scope.domain? field = some domain ↔ (field, domain) ∈ scope.fields := by
  constructor
  · intro h
    obtain ⟨row, hfind, rfl⟩ := Option.map_eq_some_iff.1 h
    obtain rfl : row.1 = field := by simpa using List.find?_some hfind
    exact List.mem_of_find?_eq_some hfind
  · intro h
    cases hdomain : scope.domain? field with
    | none =>
      have hnone := List.find?_eq_none.1 (Option.map_eq_none_iff.1 hdomain) _ h
      simp at hnone
    | some other =>
      obtain ⟨row, hfind, rfl⟩ := Option.map_eq_some_iff.1 hdomain
      have hname : row.1 = field := by simpa using List.find?_some hfind
      rw [List.inj_on_of_nodup_map scope.nodup_fields (List.mem_of_find?_eq_some hfind) h hname]

end Scope

/-! ## Reading -/

theorem hasForm_iff {s field value : List Char} {sign : OperatorSign}
    (hfield : trim field = field) : HasForm s field sign value ↔ value ≠ [] ∧
      ∃ left right, splitOperator? s = some (left, sign, right) ∧ trim left = field ∧
        trim right = value := by
  constructor
  · rintro ⟨⟨left, right, hsplit, hleft, hright⟩, hnil, hvalue⟩
    exact ⟨hnil, left, right, splitOperator?_eq_some_iff.2 hsplit, (isPadded_iff hfield).1 hleft,
      (isPadded_iff hvalue).1 hright⟩
  · rintro ⟨hnil, left, right, hsplit, hleft, rfl⟩
    exact ⟨⟨left, right, splitOperator?_eq_some_iff.1 hsplit, (isPadded_iff hfield).2 hleft,
      isPadded_trim right⟩, hnil, trim_trim right⟩

namespace Criterion

variable {scope : Scope} {expression field value : String} {sign : OperatorSign}

/-- What becomes of an expression that has the form of one. -/
theorem ofExpression_of_hasForm (hname : isFieldName field.toList = true)
    (hform : HasForm expression.toList field.toList sign value.toList) :
    ofExpression scope expression =
      match scope.domain? field with
      | none => .error (.unknownField scope field)
      | some domain =>
        match sign.operator? domain with
        | none => .error (.malformed expression (.unordered field))
        | some operator => .ok { field, operator, operand := value, domain } := by
  obtain ⟨hnil, left, right, hsplit, hleft, hright⟩ :=
    (hasForm_iff (trim_of_isFieldName hname)).1 hform
  rw [ofExpression, hsplit]
  cases hdomain : scope.domain? field with
  | none =>
    simp only [hleft, hright, hname, hnil, hdomain, Bool.not_true, Bool.false_eq_true, ↓reduceIte,
      String.ofList_toList]
  | some domain =>
    cases hoperator : sign.operator? domain <;>
      simp only [hleft, hright, hname, hnil, hdomain, hoperator, Bool.not_true, Bool.false_eq_true,
        ↓reduceIte, String.ofList_toList]

/-- What does not have the form of an expression on a field name is malformed. -/
theorem ofExpression_of_not_hasForm
    (h : ∀ (field : String) (sign : OperatorSign) (value : String),
      isFieldName field.toList = true →
        ¬HasForm expression.toList field.toList sign value.toList) :
    ∃ reason, ofExpression scope expression = .error (.malformed expression reason) := by
  rw [ofExpression]
  split
  · exact ⟨_, rfl⟩
  · next left sign right hsplit =>
    dsimp only
    split
    · exact ⟨_, rfl⟩
    · next hname =>
      split
      · exact ⟨_, rfl⟩
      · next hnil =>
        have hname : isFieldName (trim left) = true := by simpa using hname
        refine absurd ?_ (h (String.ofList (trim left)) sign (String.ofList (trim right)) ?_)
        · simp only [String.toList_ofList]
          exact (hasForm_iff (trim_trim left)).2 ⟨hnil, left, right, hsplit, rfl, rfl⟩
        · rwa [String.toList_ofList]

/-- An expression on a declared field is read if its operator stands for something. -/
theorem ofExpression_eq_ok {domain : Domain} {operator : Operator}
    (hform : HasForm expression.toList field.toList sign value.toList)
    (hfield : (field, domain) ∈ scope.fields) (hsign : StandsFor sign domain operator) :
    ofExpression scope expression = .ok { field, operator, operand := value, domain } := by
  rw [ofExpression_of_hasForm (Scope.isFieldName_of_mem_fields hfield) hform,
    Scope.domain?_eq_some_iff.2 hfield]
  simp only [OperatorSign.operator?_eq_some_iff.2 hsign]

/-- Whether an expression has the form of one on the field, operator and operand of a criterion, as
they are declared. -/
def IsRead (scope : Scope) (expression : String) (c : Criterion) : Prop :=
  (c.field, c.domain) ∈ scope.fields ∧ ∃ sign, StandsFor sign c.domain c.operator ∧
    HasForm expression.toList c.field.toList sign c.operand.toList

/-- Whether an expression has the form of one on a field that is not declared. -/
def IsOnUnknown (scope : Scope) (expression field : String) : Prop :=
  isFieldName field.toList = true ∧ (∀ domain, (field, domain) ∉ scope.fields) ∧
    ∃ sign value, HasForm expression.toList field.toList sign (String.toList value)

theorem ofExpression_of_isOnUnknown (h : IsOnUnknown scope expression field) :
    ofExpression scope expression = .error (.unknownField scope field) := by
  obtain ⟨hname, hundeclared, sign, value, hform⟩ := h
  have hdomain : scope.domain? field = none :=
    Option.eq_none_iff_forall_not_mem.2 fun domain h =>
      hundeclared domain (Scope.domain?_eq_some_iff.1 h)
  rw [ofExpression_of_hasForm hname hform, hdomain]

theorem ofExpression_cases (scope : Scope) (expression : String) :
    (∃ c, IsRead scope expression c ∧ ofExpression scope expression = .ok c) ∨
      (∃ field, IsOnUnknown scope expression field ∧
        ofExpression scope expression = .error (.unknownField scope field)) ∨
      ∃ reason, ofExpression scope expression = .error (.malformed expression reason) := by
  by_cases hform : ∃ (field : String) (sign : OperatorSign) (value : String),
      isFieldName field.toList = true ∧ HasForm expression.toList field.toList sign value.toList
  · obtain ⟨field, sign, value, hname, hform⟩ := hform
    have hread : ofExpression scope expression = _ := ofExpression_of_hasForm hname hform
    cases hdomain : scope.domain? field with
    | none =>
      refine .inr (.inl ⟨field, ⟨hname, fun domain hmem => ?_, sign, value, hform⟩, ?_⟩)
      · rw [Scope.domain?_eq_some_iff.2 hmem] at hdomain
        cases hdomain
      · rw [hread, hdomain]
    | some domain =>
      have hfield := Scope.domain?_eq_some_iff.1 hdomain
      cases hoperator : sign.operator? domain with
      | none => exact .inr (.inr ⟨.unordered field, by simp only [hread, hdomain, hoperator]⟩)
      | some operator =>
        have hsign := OperatorSign.operator?_eq_some_iff.1 hoperator
        exact .inl ⟨_, ⟨hfield, sign, hsign, hform⟩, ofExpression_eq_ok hform hfield hsign⟩
  · push Not at hform
    exact .inr (.inr (ofExpression_of_not_hasForm hform))

/-- An expression is read if and only if it is a declared field, an operator that applies to it and
a value, and these are what is read. It is on an unknown field if and only if it has this form with
the name of a field that is not declared. Everything else is malformed. Cutting the text by numbers
of bytes never fails and gives the same parts. -/
theorem ofExpression_grammar (scope : Scope) (expression : String) :
    (∀ c, ofExpression scope expression = .ok c ↔ IsRead scope expression c) ∧
    (∀ other field, ofExpression scope expression = .error (.unknownField other field) ↔
      other = scope ∧ IsOnUnknown scope expression field) ∧
    ((∃ c, IsRead scope expression c) ∨ (∃ field, IsOnUnknown scope expression field) ∨
      ∃ reason, ofExpression scope expression = .error (.malformed expression reason)) ∧
    cutOperator? expression.toList = (splitOperator? expression.toList).map some := by
  refine ⟨fun c => ⟨fun h => ?_, ?_⟩, fun other field => ⟨fun h => ?_, ?_⟩,
    ?_, cutOperator?_eq _⟩
  · rcases ofExpression_cases scope expression with ⟨c', hread, heq⟩ | ⟨_, -, heq⟩ | ⟨_, heq⟩ <;>
      cases h.symm.trans heq
    exact hread
  · rintro ⟨hfield, sign, hsign, hform⟩
    exact ofExpression_eq_ok hform hfield hsign
  · rcases ofExpression_cases scope expression with ⟨_, -, heq⟩ | ⟨_, hunknown, heq⟩ | ⟨_, heq⟩ <;>
      cases h.symm.trans heq
    exact ⟨rfl, hunknown⟩
  · rintro ⟨rfl, hunknown⟩
    exact ofExpression_of_isOnUnknown hunknown
  · exact (ofExpression_cases scope expression).imp (fun ⟨c, h, _⟩ => ⟨c, h⟩)
      (Or.imp_left fun ⟨field, h, _⟩ => ⟨field, h⟩)

example : ofExpression .column " count >== 3" = .ok
    { field := "count", operator := .gt, operand := "= 3", domain := .integer } := by
  decide

end Criterion

end TokenInventory
