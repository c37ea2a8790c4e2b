import Mathlib.Data.List.Forall2
import TokenInventory.Criteria.Filter

/-!
# Options are joined by "and"

A filter on an info entry can be asked for by an expression and by five options at once. Each of
them gives one criterion on the same key, and the filter is all of these criteria together
(`FieldFilter.ofCriteria`). So it can be put together exactly if each of them can be on its own, and
it accepts the tokens that every one of the filters made on their own accepts
(`FieldFilter.ofInfo_conjunction`).
-/

namespace TokenInventory

/-! ## Options one by one -/

/-- An option that gives one operand for an info entry. -/
inductive ValueOption
  | value
  | greaterThan
  | lessThan
  | after
  | before
  deriving DecidableEq, Repr

namespace ValueOption

/-- The operand that is given by an option. -/
def given? (options : ValueOptions) : ValueOption → Option String
  | value => options.value
  | greaterThan => options.greaterThan
  | lessThan => options.lessThan
  | after => options.after
  | before => options.before

/-- An option with its operand, and no other option. -/
def alone (operand : String) : ValueOption → ValueOptions
  | value => { value := some operand }
  | greaterThan => { greaterThan := some operand }
  | lessThan => { lessThan := some operand }
  | after => { after := some operand }
  | before => { before := some operand }

/-- How an option compares. -/
def operator : ValueOption → Operator
  | value => .eq
  | greaterThan => .gt
  | lessThan => .lt
  | after => .after
  | before => .before

/-- What an option takes values as, whatever the table of the fields says. -/
def domain : ValueOption → Domain
  | value => .string
  | greaterThan | lessThan => .integer
  | after | before => .datetime

/-- What an option with an operand asks of a field. -/
def criterion (field operand : String) (option : ValueOption) : Criterion where
  field := field
  operator := option.operator
  operand := operand
  domain := option.domain

end ValueOption

namespace ValueOptions

variable {options : ValueOptions} {field operand : String} {c : Criterion}

theorem mem_criteria_iff : c ∈ options.criteria field ↔
    ∃ option operand, ValueOption.given? options option = some operand ∧
      c = option.criterion field operand := by
  simp only [criteria, rows, List.mem_filterMap, List.mem_cons, List.not_mem_nil, or_false,
    Prod.exists, Prod.mk.injEq, Option.map_eq_some_iff]
  constructor
  · rintro ⟨_, _, _, hrow, operand, rfl, rfl⟩
    rcases hrow with ⟨h, rfl, rfl⟩ | ⟨h, rfl, rfl⟩ | ⟨h, rfl, rfl⟩ | ⟨h, rfl, rfl⟩ | ⟨h, rfl, rfl⟩
    exacts [⟨.value, operand, h.symm, rfl⟩, ⟨.greaterThan, operand, h.symm, rfl⟩,
      ⟨.lessThan, operand, h.symm, rfl⟩, ⟨.after, operand, h.symm, rfl⟩,
      ⟨.before, operand, h.symm, rfl⟩]
  · rintro ⟨option, operand, hgiven, rfl⟩
    refine ⟨_, option.operator, option.domain, ?_, operand, hgiven, rfl⟩
    cases option <;> simp [ValueOption.given?, ValueOption.operator, ValueOption.domain]

theorem forall_mem_criteria_iff {P : Criterion → Prop} : (∀ c ∈ options.criteria field, P c) ↔
    ∀ option operand, ValueOption.given? options option = some operand →
      P (option.criterion field operand) := by
  constructor
  · intro h option operand hgiven
    exact h _ (mem_criteria_iff.2 ⟨option, operand, hgiven, rfl⟩)
  · intro h c hc
    obtain ⟨option, operand, hgiven, rfl⟩ := mem_criteria_iff.1 hc
    exact h option operand hgiven

theorem criteria_alone (option : ValueOption) :
    (option.alone operand).criteria field = [option.criterion field operand] := by
  cases option <;> rfl

theorem isEmpty_iff : options.isEmpty = true ↔
    ∀ option, ValueOption.given? options option = none := by
  simp only [isEmpty, rows, List.all_cons, List.all_nil, Bool.and_true, Bool.and_eq_true,
    Option.isNone_iff_eq_none]
  refine ⟨fun ⟨h₁, h₂, h₃, h₄, h₅⟩ option => ?_, fun h => ⟨h .value, h .greaterThan, h .lessThan,
    h .after, h .before⟩⟩
  cases option <;> assumption

theorem criteria_eq_nil_iff : options.criteria field = [] ↔
    ∀ option, ValueOption.given? options option = none := by
  simp only [List.eq_nil_iff_forall_not_mem, Option.eq_none_iff_forall_ne_some]
  exact forall_mem_criteria_iff

end ValueOptions

/-! ## Several criteria on one key -/

theorem Comparison.ofCriteria_eq_ok_iff {zone : Zone} {limit : Nat} {criteria : List Criterion}
    {comparisons : List Comparison} : ofCriteria zone limit criteria = .ok comparisons ↔
      List.Forall₂ (fun c comparison => ofCriterion zone limit c = .ok comparison) criteria
        comparisons := by
  unfold ofCriteria
  induction criteria generalizing comparisons with
  | nil => cases comparisons <;> simp [pure, Except.pure]
  | cons c criteria ih =>
    rw [List.mapM_cons, List.forall₂_cons_left_iff]
    cases hmake : ofCriterion zone limit c with
    | error error => simp [bind, Except.bind]
    | ok comparison =>
      cases hrest : criteria.mapM (ofCriterion zone limit) with
      | error error => simp [← ih, hrest, bind, Except.bind]
      | ok rest =>
        simp [← ih, hrest, bind, Except.bind, pure, Except.pure, eq_comm (b := comparisons)]

/-- What holds of all comparisons that were made holds of each that a criterion makes. -/
theorem Comparison.forall_mem_iff {zone : Zone} {limit : Nat} {criteria : List Criterion}
    {comparisons : List Comparison} (h : ofCriteria zone limit criteria = .ok comparisons)
    {P : Comparison → Prop} : (∀ comparison ∈ comparisons, P comparison) ↔
      ∀ c ∈ criteria, ∀ comparison, ofCriterion zone limit c = .ok comparison → P comparison := by
  have hmade := ofCriteria_eq_ok_iff.1 h
  clear h
  induction hmade with
  | nil => simp
  | cons hmake _ ih => simp only [List.forall_mem_cons, ih, hmake, Except.ok.injEq, forall_eq']

theorem Comparison.exists_ofCriteria_iff {zone : Zone} {limit : Nat} {criteria : List Criterion} :
    (∃ comparisons, ofCriteria zone limit criteria = .ok comparisons) ↔
      ∀ c ∈ criteria, ∃ comparison, ofCriterion zone limit c = .ok comparison := by
  simp only [ofCriteria_eq_ok_iff]
  induction criteria with
  | nil => exact iff_of_true ⟨[], .nil⟩ nofun
  | cons c criteria ih =>
    rw [List.forall_mem_cons, ← ih]
    constructor
    · rintro ⟨_, _ | ⟨hmake, hrest⟩⟩
      exact ⟨⟨_, hmake⟩, _, hrest⟩
    · rintro ⟨⟨comparison, hmake⟩, comparisons, hrest⟩
      exact ⟨_, .cons hmake hrest⟩

namespace FieldFilter

variable {zone : Zone} {limit : Nat} {key : String} {criteria : List Criterion}
  {filter : FieldFilter} {expression : Option String} {options : ValueOptions}

/-- The filter of criteria on an info entry; without a criterion there is none. -/
def ofCriteria (zone : Zone) (limit : Nat) (key : String) (criteria : List Criterion) :
    Except CriteriaError (Option FieldFilter) :=
  if criteria = [] then .ok none
  else
    (Comparison.ofCriteria zone limit criteria).map fun comparisons =>
      some { scope := .info, field := key, comparisons }

theorem ofCriteria_eq_none_iff : ofCriteria zone limit key criteria = .ok none ↔ criteria = [] := by
  unfold ofCriteria
  cases Comparison.ofCriteria zone limit criteria <;> split <;> simp_all [Except.map]

theorem ofCriteria_eq_some_iff : ofCriteria zone limit key criteria = .ok (some filter) ↔
    criteria ≠ [] ∧ ∃ comparisons, Comparison.ofCriteria zone limit criteria = .ok comparisons ∧
      filter = { scope := .info, field := key, comparisons } := by
  unfold ofCriteria
  cases Comparison.ofCriteria zone limit criteria <;> split <;> simp_all [Except.map, eq_comm]

theorem exists_ofCriteria_iff : (∃ built, ofCriteria zone limit key criteria = .ok built) ↔
    ∀ c ∈ criteria, ∃ comparison, Comparison.ofCriterion zone limit c = .ok comparison := by
  rw [← Comparison.exists_ofCriteria_iff]
  unfold ofCriteria
  split
  · next hnil =>
    subst hnil
    exact iff_of_true ⟨_, rfl⟩ ⟨_, rfl⟩
  · cases Comparison.ofCriteria zone limit criteria <;> simp [Except.map]

theorem ofCriteria_singleton (zone : Zone) (limit : Nat) (key : String) (c : Criterion) :
    ofCriteria zone limit key [c] = (Comparison.ofCriterion zone limit c).map fun comparison =>
      some { scope := .info, field := key, comparisons := [comparison] } := by
  cases hmake : Comparison.ofCriterion zone limit c <;>
    simp [ofCriteria, Comparison.ofCriteria, hmake, Except.map, bind, Except.bind, pure,
      Except.pure]

theorem ofCriteria_singleton_eq_some_iff {c : Criterion} :
    ofCriteria zone limit key [c] = .ok (some filter) ↔
      ∃ comparison, Comparison.ofCriterion zone limit c = .ok comparison ∧
        filter = { scope := .info, field := key, comparisons := [comparison] } := by
  rw [ofCriteria_singleton]
  cases Comparison.ofCriterion zone limit c <;> simp [Except.map, eq_comm]

theorem accepts_iff {token : Token} : filter.accepts zone token = true ↔
    ∃ value, value? filter.scope filter.field token = some value ∧
      ∀ comparison ∈ filter.comparisons, comparison.holds zone value = true := by
  unfold accepts
  cases value? filter.scope filter.field token <;> simp

/-- The filter of several criteria accepts what the filters of each of them accept. -/
theorem accepts_ofCriteria_iff (h : ofCriteria zone limit key criteria = .ok (some filter))
    {token : Token} : filter.accepts zone token = true ↔
      ∀ c ∈ criteria, ∀ single, ofCriteria zone limit key [c] = .ok (some single) →
        single.accepts zone token = true := by
  obtain ⟨hnil, comparisons, hmade, rfl⟩ := ofCriteria_eq_some_iff.1 h
  have hall := Comparison.exists_ofCriteria_iff.1 ⟨_, hmade⟩
  simp only [accepts_iff, Comparison.forall_mem_iff hmade, ofCriteria_singleton_eq_some_iff]
  constructor
  · rintro ⟨value, hvalue, hholds⟩ c hc _ ⟨comparison, hmake, rfl⟩
    refine ⟨value, hvalue, fun _ hmem => ?_⟩
    rw [List.mem_singleton.1 hmem]
    exact hholds c hc comparison hmake
  · intro hsingle
    -- the first criterion shows that the token has the field
    obtain ⟨c, hc⟩ := List.exists_mem_of_ne_nil criteria hnil
    obtain ⟨comparison, hmake⟩ := hall c hc
    obtain ⟨value, hvalue, -⟩ := hsingle c hc _ ⟨comparison, hmake, rfl⟩
    refine ⟨value, hvalue, fun d hd other hother => ?_⟩
    obtain ⟨value', hvalue', hholds⟩ := hsingle d hd _ ⟨other, hother, rfl⟩
    obtain rfl := Option.some.inj (hvalue.symm.trans hvalue')
    exact hholds other List.mem_cons_self

/-! ## Expressions and options -/

theorem field_of_infoCriterion {e : String} {c : Criterion}
    (h : infoCriterion (some key) e = .ok c) : c.field = key := by
  unfold infoCriterion at h
  cases hread : Criterion.ofExpression .info e with
  | error error => simp [hread, bind, Except.bind] at h
  | ok c' =>
    simp only [hread, bind, Except.bind, pure, Except.pure] at h
    split at h
    · next hkey =>
      cases h
      exact hkey.symm
    · cases h

/-- An expression gives its criterion unless another key is given. -/
theorem mapM_infoCriterion {given : Option String} {e : String} {c : Criterion}
    (h : Criterion.ofExpression .info e = .ok c) (hkey : ∀ k ∈ given, k = c.field) :
    (some e).mapM (infoCriterion given) = .ok (some c) := by
  have hread : infoCriterion given e = .ok c := by
    unfold infoCriterion
    cases given with
    | none => simp [h, bind, Except.bind, pure, Except.pure]
    | some k => simp [h, hkey k rfl, bind, Except.bind, pure, Except.pure]
  rw [Option.mapM_some, hread]
  rfl

/-- An expression on a given key gives one criterion on that key; no expression gives none. -/
theorem expressed_cases {expressed : Option Criterion}
    (h : expression.mapM (infoCriterion (some key)) = .ok expressed) :
    expression = none ∧ expressed = none ∨
      ∃ e c, expression = some e ∧ expressed = some c ∧ c.field = key := by
  cases expression with
  | none =>
    cases h
    exact .inl ⟨rfl, rfl⟩
  | some e =>
    rw [Option.mapM_some] at h
    cases hread : infoCriterion (some key) e with
    | error error => simp [hread, Functor.map, Except.map] at h
    | ok c =>
      rw [hread] at h
      cases h
      exact .inr ⟨e, c, rfl, rfl, field_of_infoCriterion hread⟩

theorem ofInfo_of_error {error : CriteriaError}
    (h : expression.mapM (infoCriterion (some key)) = .error error) (options : ValueOptions) :
    ofInfo zone limit expression (some key) options = .error error := by
  rw [ofInfo, h]
  rfl

/-- A filter on a given key is that of the criterion of the expression and those of the options. -/
theorem ofInfo_of_ok {expressed : Option Criterion}
    (h : expression.mapM (infoCriterion (some key)) = .ok expressed) (options : ValueOptions) :
    ofInfo zone limit expression (some key) options =
      ofCriteria zone limit key (expressed.toList ++ options.criteria key) := by
  have hfield : (expressed.map Criterion.field <|> some key) = some key := by
    rcases expressed_cases h with ⟨-, rfl⟩ | ⟨_, c, -, rfl, hkey⟩
    · rfl
    · exact congrArg some hkey
  have hcriteria : options.isEmpty = true →
      expressed.toList ++ [] = expressed.toList ++ options.criteria key := fun hempty => by
    rw [ValueOptions.criteria_eq_nil_iff.2 (ValueOptions.isEmpty_iff.1 hempty)]
  unfold ofInfo
  simp only [h, bind, Except.bind, pure, Except.pure, hfield]
  split
  on_goal 1 => rw [hcriteria ‹_›]
  all_goals
    cases expressed.toList ++ options.criteria key with
    | nil => rfl
    | cons c criteria =>
      simp only [ofCriteria, reduceCtorEq, if_false]
      cases Comparison.ofCriteria zone limit (c :: criteria) <;> rfl

/-- Without a key, only an expression makes a filter. -/
theorem ofInfo_none_of_ok {expressed : Option Criterion} {field : String}
    (hread : expression.mapM (infoCriterion none) = .ok expressed)
    (hfield : ∀ c ∈ expressed, c.field = field) (options : ValueOptions) :
    ofInfo zone limit expression none options =
      if options.isEmpty then ofCriteria zone limit field expressed.toList
      else .error (.malformed "--tokeninfo-value*" .keyRequired) := by
  unfold ofInfo
  simp only [hread, bind, Except.bind, pure, Except.pure]
  split
  · cases expressed with
    | none => rfl
    | some c =>
      obtain rfl := hfield c rfl
      simp only [ofCriteria]
      cases hmade : Comparison.ofCriteria zone limit [c] <;> simp [hmade, Except.map]
  · rfl

/-- The filter of an expression, on the key that it names. -/
theorem ofInfo_of_ofExpression {e : String} {c : Criterion}
    (h : Criterion.ofExpression .info e = .ok c) :
    ofInfo zone limit (some e) none {} = ofCriteria zone limit c.field [c] :=
  ofInfo_none_of_ok (mapM_infoCriterion h nofun) (by rintro _ ⟨⟩; rfl) {}

theorem ofInfo_alone (zone : Zone) (limit : Nat) (key operand : String) (option : ValueOption) :
    ofInfo zone limit none (some key) (option.alone operand) =
      ofCriteria zone limit key [option.criterion key operand] := by
  rw [ofInfo_of_ok rfl, ValueOptions.criteria_alone]
  rfl

/-- Without a key an option is refused, whatever the expression. -/
theorem ofInfo_none_of_given {option : ValueOption} (expression : Option String)
    (h : option.given? options ≠ none) :
    ∃ error, ofInfo zone limit expression none options = .error error := by
  have hempty : options.isEmpty = false :=
    Bool.eq_false_iff.2 fun hempty => h (ValueOptions.isEmpty_iff.1 hempty option)
  unfold ofInfo
  cases expression.mapM (infoCriterion none) with
  | error error => exact ⟨error, rfl⟩
  | ok expressed => exact ⟨_, by simp only [hempty]; rfl⟩

/-- Whether a filter on a key is made by one of several means alone: by the expression, or by one
of the options. -/
inductive IsSingle (zone : Zone) (limit : Nat) (key : String) (expression : Option String)
    (options : ValueOptions) (single : FieldFilter) : Prop
  | expression : ofInfo zone limit expression (some key) {} = .ok (some single) →
      IsSingle zone limit key expression options single
  | option {option : ValueOption} {operand : String} : option.given? options = some operand →
      ofInfo zone limit none (some key) (option.alone operand) = .ok (some single) →
        IsSingle zone limit key expression options single

theorem ofInfo_expression_of_ok {expressed : Option Criterion}
    (h : expression.mapM (infoCriterion (some key)) = .ok expressed) :
    ofInfo zone limit expression (some key) {} = ofCriteria zone limit key expressed.toList := by
  rw [ofInfo_of_ok h, show ({} : ValueOptions).criteria key = [] from rfl, List.append_nil]

theorem isSingle_iff {expressed : Option Criterion} {single : FieldFilter}
    (h : expression.mapM (infoCriterion (some key)) = .ok expressed) :
    IsSingle zone limit key expression options single ↔
      ∃ c ∈ expressed.toList ++ options.criteria key,
        ofCriteria zone limit key [c] = .ok (some single) := by
  simp only [List.mem_append, or_and_right, exists_or, ValueOptions.mem_criteria_iff]
  constructor
  · rintro (hsingle | ⟨hgiven, hsingle⟩)
    · rw [ofInfo_expression_of_ok h] at hsingle
      cases expressed with
      | none => cases hsingle
      | some c => exact .inl ⟨c, List.mem_cons_self, hsingle⟩
    · rw [ofInfo_alone] at hsingle
      exact .inr ⟨_, ⟨_, _, hgiven, rfl⟩, hsingle⟩
  · rintro (⟨c, hc, hsingle⟩ | ⟨c, ⟨option, operand, hgiven, rfl⟩, hsingle⟩)
    · obtain rfl := Option.mem_toList.1 hc
      exact .expression ((ofInfo_expression_of_ok h).trans hsingle)
    · exact .option hgiven ((ofInfo_alone ..).trans hsingle)

/-- A filter can be made by an expression and options on a key exactly if one can be made by the
expression alone and by each of the options alone; there is none exactly if neither an expression
nor an option is given. The filter is on that key, and it accepts the tokens that each of the
filters made alone accepts. Without a key every option is refused. -/
theorem ofInfo_conjunction (zone : Zone) (limit : Nat) (expression : Option String)
    (options : ValueOptions) :
    (∀ key,
      ((∃ built, ofInfo zone limit expression (some key) options = .ok built) ↔
        (∃ built, ofInfo zone limit expression (some key) {} = .ok built) ∧
          ∀ option operand, ValueOption.given? options option = some operand →
            ∃ built, ofInfo zone limit none (some key) (option.alone operand) = .ok built) ∧
      (ofInfo zone limit expression (some key) options = .ok none ↔
        expression = none ∧ ∀ option, ValueOption.given? options option = none) ∧
      ∀ filter, ofInfo zone limit expression (some key) options = .ok (some filter) →
        filter.scope = .info ∧ filter.field = key ∧
          ∀ token, filter.accepts zone token = true ↔
            ∀ single, IsSingle zone limit key expression options single →
              single.accepts zone token = true) ∧
    ((∃ option, ValueOption.given? options option ≠ none) →
      ∃ error, ofInfo zone limit expression none options = .error error) := by
  refine ⟨fun key => ?_, fun ⟨_, hgiven⟩ => ofInfo_none_of_given expression hgiven⟩
  cases hread : expression.mapM (infoCriterion (some key)) with
  | error error =>
    have hsome : expression ≠ none := by
      rintro rfl
      cases hread
    simp [ofInfo_of_error hread, hsome]
  | ok expressed =>
    rw [ofInfo_of_ok hread, ofInfo_expression_of_ok hread]
    refine ⟨?_, ?_, fun filter hfilter => ?_⟩
    · simp only [ofInfo_alone, exists_ofCriteria_iff, List.forall_mem_append,
        List.forall_mem_singleton, ValueOptions.forall_mem_criteria_iff]
    · rw [ofCriteria_eq_none_iff, List.append_eq_nil_iff, ValueOptions.criteria_eq_nil_iff]
      rcases expressed_cases hread with ⟨rfl, rfl⟩ | ⟨_, c, rfl, rfl, -⟩ <;> simp
    · obtain ⟨-, comparisons, -, rfl⟩ := ofCriteria_eq_some_iff.1 hfilter
      refine ⟨rfl, rfl, fun token => ?_⟩
      rw [accepts_ofCriteria_iff hfilter]
      simp only [isSingle_iff hread]
      exact ⟨fun h single ⟨c, hc, hsingle⟩ => h c hc single hsingle,
        fun h c hc single hsingle => h single ⟨c, hc, hsingle⟩⟩

/-- An expression and an option on one key give the numbers between two bounds. -/
theorem ofInfo_conjunction_between : ∃ filter,
    ofInfo .universal 1000 (some "count_auth >= 5") (some "count_auth") { lessThan := some "10" } =
      .ok (some filter) ∧
    filter.scope = .info ∧ filter.field = "count_auth" ∧
    ∀ token, filter.accepts .universal token = true ↔
      ∀ single, IsSingle .universal 1000 "count_auth" (some "count_auth >= 5")
        { lessThan := some "10" } single → single.accepts .universal token = true :=
  ⟨_, rfl, ((ofInfo_conjunction .universal 1000 (some "count_auth >= 5")
    { lessThan := some "10" }).1 "count_auth").2.2 _ rfl⟩

end FieldFilter

end TokenInventory
