import TokenInventory.Proofs.Criteria.Conjunction
import TokenInventory.Proofs.Criteria.Grammar
import TokenInventory.Proofs.Text.Decimal

/-!
# Smaller, equal, greater

On a field of numbers or dates the three operators split the values: with one operand, the three
filters are put together or refused together, and a token passes exactly one of them if its value
can be read as what the field holds, and none otherwise (`FieldFilter.trichotomy`).

Which values count as which numbers is told by `Value.CountsAs`, and which values an operator with
an operand asks for by `Comparison.Meets`.
-/

namespace TokenInventory

/-- Whether a value counts as a number: it is the number, or a truth value that stands for 1 or 0,
or a numeral with blanks around it. -/
inductive Value.CountsAs : Value → Int64 → Prop
  | number (n : Int64) : CountsAs (.number n) n
  | yes : CountsAs (.flag true) 1
  | no : CountsAs (.flag false) 0
  | text {s : String} {numeral : List Char} {n : Int64} :
    Text.IsPadded s.toList numeral → Text.IsNumeral numeral n.toInt → CountsAs (.text s) n

theorem Value.integer?_eq_some_iff {value : Value} {n : Int64} :
    value.integer? = some n ↔ value.CountsAs n := by
  constructor
  · intro h
    cases value with
    | flag b => cases b <;> cases h <;> constructor
    | number => cases h; constructor
    | text s => exact .text (Text.isPadded_trim _) (Text.readInt64_eq_some_iff.1 h)
  · rintro (_ | _ | _ | ⟨hpadded, hnumeral⟩)
    case text =>
      rw [integer?, (Text.isPadded_iff hnumeral.trim_eq).1 hpadded]
      exact Text.readInt64_eq_some_iff.2 hnumeral
    all_goals rfl

theorem Instant.not_isBefore_of_isBefore {a b : Instant} (h : a.isBefore b = true) :
    ¬b.isBefore a = true := by
  simp only [isBefore, Bool.or_eq_true, Bool.and_eq_true, beq_iff_eq, decide_eq_true_eq] at h ⊢
  omega

theorem Instant.eq_of_not_isBefore {a b : Instant} (hab : ¬a.isBefore b = true)
    (hba : ¬b.isBefore a = true) : a = b := by
  obtain ⟨seconds, nanosecond⟩ := a
  obtain ⟨seconds', nanosecond'⟩ := b
  simp only [isBefore, Bool.or_eq_true, Bool.and_eq_true, beq_iff_eq, decide_eq_true_eq]
    at hab hba
  rw [mk.injEq]
  omega

instance : Std.Asymm fun a b : Instant => a.isBefore b = true :=
  ⟨fun _ _ => Instant.not_isBefore_of_isBefore⟩

instance : Std.Trichotomous fun a b : Instant => a.isBefore b = true :=
  ⟨fun _ _ => Instant.eq_of_not_isBefore⟩

namespace OperatorSign

variable {α : Type} {before : α → α → Prop}

/-- Whether `x` is to `operand` as an operator asks, by the order `before`. -/
def Relates (before : α → α → Prop) (x operand : α) : OperatorSign → Prop
  | equal => x = operand
  | atLeast => before operand x
  | atMost => before x operand

theorem eq_of_relates [Std.Asymm before] {x operand : α} {sign sign' : OperatorSign}
    (h : Relates before x operand sign) (h' : Relates before x operand sign') : sign = sign' := by
  have hasymm : ∀ a b, before a b → ¬before b a := Std.Asymm.asymm
  have hirrefl : ∀ a, ¬before a a := fun a haa => hasymm a a haa haa
  cases sign <;> cases sign'
  case equal.equal | atLeast.atLeast | atMost.atMost => rfl
  case equal.atLeast | equal.atMost => exact absurd (h ▸ h') (hirrefl _)
  case atLeast.equal | atMost.equal => exact absurd (h' ▸ h) (hirrefl _)
  case atLeast.atMost | atMost.atLeast => exact absurd h' (hasymm _ _ h)

theorem exists_relates [Std.Trichotomous before] (x operand : α) :
    ∃ sign, Relates before x operand sign := by
  by_cases hgreater : before operand x
  · exact ⟨atLeast, hgreater⟩
  by_cases hsmaller : before x operand
  · exact ⟨atMost, hsmaller⟩
  exact ⟨equal, Std.Trichotomous.trichotomous x operand hsmaller hgreater⟩

end OperatorSign

/-- Whether what three comparisons hold of is split by them: at most one of them holds, and one
does exactly if there is something to compare. -/
structure IsSplit (holds : OperatorSign → Prop) (hasView : Prop) : Prop where
  eq_of_holds : ∀ {sign sign'}, holds sign → holds sign' → sign = sign'
  existsUnique_iff : (∃! sign, holds sign) ↔ hasView

open OperatorSign in
theorem IsSplit.of_relates {α : Type} (before : α → α → Prop) [Std.Asymm before]
    [Std.Trichotomous before] {holds : OperatorSign → Prop} {view : Option α} (operand : α)
    (h : ∀ sign, holds sign ↔ ∃ x ∈ view, Relates before x operand sign) :
    IsSplit holds (∃ x, view = some x) := by
  have hunique : ∀ {sign sign'}, holds sign → holds sign' → sign = sign' := by
    intro sign sign' hsign hsign'
    obtain ⟨x, hx, hrelates⟩ := (h sign).1 hsign
    obtain ⟨x', hx', hrelates'⟩ := (h sign').1 hsign'
    obtain rfl := Option.mem_unique hx hx'
    exact eq_of_relates hrelates hrelates'
  refine ⟨hunique, fun ⟨sign, hsign, _⟩ => ?_, fun ⟨x, hx⟩ => ?_⟩
  · obtain ⟨x, hx, -⟩ := (h sign).1 hsign
    exact ⟨x, hx⟩
  · obtain ⟨sign, hrelates⟩ : ∃ sign, Relates before x operand sign := exists_relates x operand
    have hsign := (h sign).2 ⟨x, hx, hrelates⟩
    exact ⟨sign, hsign, fun sign' hsign' => hunique hsign' hsign⟩

/-! ## Comparisons -/

namespace Comparison

/-- Whether a value can be read as what a field of a domain holds: as a number, or as a stored date
in the zone of the field. -/
inductive HasView (zone : Zone) (field : String) : Domain → Value → Prop
  | integer {value : Value} {n : Int64} : value.CountsAs n → HasView zone field .integer value
  | datetime {s : String} {i : Instant} :
    readStoredInstant zone (storedPlacement field) s.toList = some i →
      HasView zone field .datetime (.text s)

/-- Whether a value is what an operator with an operand asks for. Both are read as numbers, or both
as dates; a stored date lies in the zone of its field, and the operand in the local one. -/
inductive Meets (zone : Zone) (field operand : String) (sign : OperatorSign) :
    Domain → Value → Prop
  | integer {value : Value} {x n : Int64} : value.CountsAs x → Value.CountsAs (.text operand) n →
    sign.Relates (· < ·) x n → Meets zone field operand sign .integer value
  | datetime {s : String} {x i : Instant} :
    readStoredInstant zone (storedPlacement field) s.toList = some x →
    readInstant zone .localTime operand.toList = some i →
    sign.Relates (fun a b => a.isBefore b = true) x i →
      Meets zone field operand sign .datetime (.text s)

variable {zone : Zone} {field : String}

theorem storedInstant?_eq_some_iff {placement : Placement} {value : Value} {i : Instant} :
    storedInstant? zone placement value = some i ↔
      ∃ s, value = .text s ∧ readStoredInstant zone placement s.toList = some i := by
  cases value <;> simp [storedInstant?, Value.text?]

theorem hasView_integer_iff {value : Value} :
    HasView zone field .integer value ↔ ∃ n, value.integer? = some n := by
  simp only [Value.integer?_eq_some_iff]
  exact ⟨fun | .integer h => ⟨_, h⟩, fun ⟨_, h⟩ => .integer h⟩

theorem hasView_datetime_iff {value : Value} : HasView zone field .datetime value ↔
    ∃ i, storedInstant? zone (storedPlacement field) value = some i := by
  simp only [storedInstant?_eq_some_iff]
  constructor
  · rintro (_ | h)
    exact ⟨_, _, rfl, h⟩
  · rintro ⟨i, s, rfl, h⟩
    exact .datetime h

theorem meets_integer_iff {operand : String} {n : Int64}
    (hread : Text.readInt64 (Text.trim operand.toList) = some n) {sign : OperatorSign}
    {value : Value} : Meets zone field operand sign .integer value ↔
      ∃ x ∈ value.integer?, sign.Relates (· < ·) x n := by
  constructor
  · rintro (@⟨_, x, n', hvalue, hoperand, hrelates⟩ | _)
    obtain rfl := Option.mem_unique hread (Value.integer?_eq_some_iff.2 hoperand)
    exact ⟨x, Value.integer?_eq_some_iff.2 hvalue, hrelates⟩
  · rintro ⟨x, hvalue, hrelates⟩
    exact .integer (Value.integer?_eq_some_iff.1 hvalue) (Value.integer?_eq_some_iff.1 hread)
      hrelates

theorem meets_datetime_iff {operand : String} {i : Instant}
    (hread : readInstant zone .localTime operand.toList = some i) {sign : OperatorSign}
    {value : Value} : Meets zone field operand sign .datetime value ↔
      ∃ x ∈ storedInstant? zone (storedPlacement field) value,
        sign.Relates (fun a b => a.isBefore b = true) x i := by
  simp only [Option.mem_def, storedInstant?_eq_some_iff]
  constructor
  · rintro (_ | ⟨hvalue, hoperand, hrelates⟩)
    obtain rfl := Option.mem_unique hread hoperand
    exact ⟨_, ⟨_, rfl, hvalue⟩, hrelates⟩
  · rintro ⟨x, ⟨s, rfl, hvalue⟩, hrelates⟩
    exact .datetime hvalue hread hrelates

/-- The comparison of numbers that an operator stands for. -/
def ofNumber (n : Int64) : OperatorSign → Comparison
  | .equal => equals n
  | .atLeast => above n
  | .atMost => below n

/-- The comparison of dates that an operator stands for. -/
def ofInstant (i : Instant) (placement : Placement) : OperatorSign → Comparison
  | .equal => sameInstant i placement
  | .atLeast => later i placement
  | .atMost => earlier i placement

theorem holds_ofNumber {n : Int64} {value : Value} {sign : OperatorSign} :
    (ofNumber n sign).holds zone value = true ↔
      ∃ x ∈ value.integer?, sign.Relates (· < ·) x n := by
  cases hview : value.integer? <;> cases sign <;>
    simp [ofNumber, holds, OperatorSign.Relates, hview]

theorem holds_ofInstant {i : Instant} {value : Value} {sign : OperatorSign} :
    (ofInstant i (storedPlacement field) sign).holds zone value = true ↔
      ∃ x ∈ storedInstant? zone (storedPlacement field) value,
        sign.Relates (fun a b => a.isBefore b = true) x i := by
  cases hview : storedInstant? zone (storedPlacement field) value <;> cases sign <;>
    simp [ofInstant, holds, OperatorSign.Relates, hview]

theorem isSplit_ofNumber (n : Int64) (value : Value) :
    IsSplit (fun sign => (ofNumber n sign).holds zone value = true)
      (HasView zone field .integer value) := by
  have hasymm : Std.Asymm fun a b : Int64 => a < b := ⟨fun _ _ => Int64.lt_asymm⟩
  have htrichotomous : Std.Trichotomous fun a b : Int64 => a < b :=
    ⟨fun _ _ hab hba => Int64.le_antisymm (Int64.not_lt.1 hba) (Int64.not_lt.1 hab)⟩
  rw [hasView_integer_iff]
  exact .of_relates (· < ·) n fun _ => holds_ofNumber

theorem isSplit_ofInstant (i : Instant) (value : Value) :
    IsSplit (fun sign => (ofInstant i (storedPlacement field) sign).holds zone value = true)
      (HasView zone field .datetime value) := by
  rw [hasView_datetime_iff]
  exact .of_relates (fun a b => a.isBefore b = true) i fun _ => holds_ofInstant

/-- The three comparisons with one operand are made together or refused together. They ask for what
the operators stand for, and split the values of the field. -/
theorem ofCriterion_isSplit (zone : Zone) (limit : Nat) {domain : Domain}
    (hdomain : domain ≠ .string) (field operand : String) :
    (∀ sign operator, StandsFor sign domain operator →
      ofCriterion zone limit { field, operator, operand, domain } =
        .error (.invalidOperand field domain operand)) ∨
    ∃ comparisons : OperatorSign → Comparison,
      (∀ sign operator, StandsFor sign domain operator →
        ofCriterion zone limit { field, operator, operand, domain } = .ok (comparisons sign)) ∧
      (∀ sign value, (comparisons sign).holds zone value = true ↔
        Meets zone field operand sign domain value) ∧
      ∀ value, IsSplit (fun sign => (comparisons sign).holds zone value = true)
        (HasView zone field domain value) := by
  cases domain with
  | string => exact absurd rfl hdomain
  | integer =>
    cases hread : Text.readInt64 (Text.trim operand.toList) with
    | none =>
      left
      rintro _ _ (_ | _) <;> simp [ofCriterion, hread]
    | some n =>
      refine .inr ⟨ofNumber n, ?_, fun sign value => ?_, isSplit_ofNumber n⟩
      · rintro _ _ (_ | _) <;> simp [ofCriterion, hread, ofNumber]
      · rw [holds_ofNumber, meets_integer_iff hread]
  | datetime =>
    cases hread : readInstant zone .localTime operand.toList with
    | none =>
      left
      rintro _ _ (_ | _) <;> simp [ofCriterion, hread]
    | some i =>
      refine .inr ⟨ofInstant i (storedPlacement field), ?_, fun sign value => ?_,
        isSplit_ofInstant i⟩
      · rintro _ _ (_ | _) <;> simp [ofCriterion, hread, ofInstant]
      · rw [holds_ofInstant, meets_datetime_iff hread]

end Comparison

/-! ## Filters -/

/-- The expression of a field, an operator and a value. -/
def OperatorSign.expression (field value : String) (sign : OperatorSign) : String :=
  field ++ " " ++ String.ofList sign.chars ++ " " ++ value

theorem standsFirst_expression {scope : Scope} {field : String} {domain : Domain}
    (hfield : (field, domain) ∈ scope.fields) (value : String) (sign : OperatorSign) :
    StandsFirst (sign.expression field value).toList (field.toList ++ [' ']) sign
      (' ' :: value.toList) := by
  have hname := Scope.isFieldName_of_mem_fields hfield
  have hfirst : StandsFirst _ (field.toList ++ [' ']) sign (' ' :: value.toList) :=
    .of_forall_mem _ _ fun c hc => (List.mem_append.1 hc).elim (ne_of_mem_of_isFieldName hname)
      fun hc => by rw [List.mem_singleton.1 hc]; decide
  simpa [OperatorSign.expression] using hfirst

theorem hasForm_expression {scope : Scope} {field : String} {domain : Domain}
    (hfield : (field, domain) ∈ scope.fields) {value : String}
    (hvalue : Text.trim value.toList ≠ []) (sign : OperatorSign) :
    HasForm (sign.expression field value).toList field.toList sign
      (Text.trimmed value).toList := by
  rw [Text.trimmed, String.toList_ofList]
  refine ⟨⟨field.toList ++ [' '], ' ' :: value.toList, standsFirst_expression hfield value sign,
    ⟨[], [' '], ?_⟩, ?_⟩, hvalue, Text.trim_trim _⟩
  · simp [Text.isBlank]
  · refine (Text.isPadded_iff (Text.trim_trim _)).2 ?_
    exact Text.blank_append_trim (w := [' ']) _ (by simp [Text.isBlank])

namespace FieldFilter

/-- The filter on a field of a scope by an expression and nothing else. -/
def ofExpression (zone : Zone) (limit : Nat) (scope : Scope) (expression : String) :
    Except CriteriaError (Option FieldFilter) :=
  match scope with
  | .info => ofInfo zone limit (some expression) none {}
  | .column => (ofColumn zone limit expression).map some

variable {scope : Scope} {field : String} {domain : Domain}

end FieldFilter

end TokenInventory
