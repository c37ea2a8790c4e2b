import TokenInventory.Proofs.Calendar.Offset
import TokenInventory.Proofs.Criteria.Conjunction
import TokenInventory.Proofs.Criteria.Grammar
import TokenInventory.Selection.Basic

/-!
# The last authentication and the local zone

The stored time of the last authentication is placed in universal time. So a filter on it depends on
the local zone through its operands only, and not at all if these carry an offset: in any two zones
the same filter is made, and it accepts the same tokens. An age is compared with the stored time and
with nothing else, so it gives the same answer in all zones whatever is stored
(`lastAuthentication_agree`).
-/

namespace TokenInventory

/-- Whether an operand carries an offset from universal time, apart from blanks at its ends. -/
def CarriesOffset (operand : String) : Prop :=
  EndsInOffset (Text.trim operand.toList)

namespace Comparison

variable {zone zone' : Zone} {limit : Nat} {c : Criterion} {comparison : Comparison}

/-- Where the stored dates of a comparison are placed, if it is one of dates. -/
def placement? : Comparison → Option Placement
  | sameInstant _ placement | later _ placement | earlier _ placement => some placement
  | fits _ _ | equals _ | above _ | below _ => none

/-- A criterion is read alike in all zones if it has no date without an offset. -/
theorem ofCriterion_agree (zone zone' : Zone) (h : c.domain = .datetime → CarriesOffset c.operand) :
    ofCriterion zone limit c = ofCriterion zone' limit c := by
  obtain ⟨field, operator, operand, domain⟩ := c
  cases domain with
  | integer | string => cases operator <;> rfl
  | datetime =>
    have hread := readInstant_of_endsInOffset (h rfl) zone zone' .localTime .localTime
    cases operator <;> simp only [ofCriterion, hread]

/-- Only comparisons of dates place stored dates, where the field asks for it. -/
theorem placement?_of_ofCriterion (h : ofCriterion zone limit c = .ok comparison) :
    comparison.placement? = none ∨ comparison.placement? = some (storedPlacement c.field) := by
  unfold ofCriterion at h
  dsimp only at h
  split at h
  on_goal 8 => cases h
  all_goals
    split at h <;> cases h
    first | exact .inl rfl | exact .inr rfl

/-- A comparison holds alike in all zones if stored dates are placed in universal time. -/
theorem holds_agree (zone zone' : Zone)
    (h : ∀ placement ∈ comparison.placement?, placement = .universalTime) (value : Value) :
    comparison.holds zone value = comparison.holds zone' value := by
  have hstored : storedInstant? zone .universalTime value =
      storedInstant? zone' .universalTime value := by
    simp only [storedInstant?, readStoredInstant_universalTime zone zone']
  cases comparison with
  | fits | equals | above | below => rfl
  | sameInstant i placement | later i placement | earlier i placement =>
    obtain rfl := h placement rfl
    simp only [holds, hstored]

theorem ofCriteria_agree (zone zone' : Zone) {criteria : List Criterion}
    (h : ∀ c ∈ criteria, c.domain = .datetime → CarriesOffset c.operand) :
    ofCriteria zone limit criteria = ofCriteria zone' limit criteria := by
  unfold ofCriteria
  induction criteria with
  | nil => rfl
  | cons c criteria ih =>
    rw [List.forall_mem_cons] at h
    rw [List.mapM_cons, List.mapM_cons, ofCriterion_agree zone zone' h.1, ih h.2]

end Comparison

namespace FieldFilter

/-- Whether in two zones the same filter is made, and it accepts the same tokens. -/
structure AgreeIn (zone zone' : Zone)
    (made : Zone → Except CriteriaError (Option FieldFilter)) : Prop where
  made_eq : made zone = made zone'
  accepts_eq : ∀ filter, made zone = .ok (some filter) →
    ∀ token, filter.accepts zone token = filter.accepts zone' token

/-- Whether an expression and options are on the last authentication, and give no date without an
offset. -/
structure ComparesInstants (expression key : Option String) (options : ValueOptions) : Prop where
  key_eq : ∀ k ∈ key, k = Token.lastAuthenticationKey
  expressed : ∀ e ∈ expression, ∃ sign operand, CarriesOffset operand ∧
    HasForm e.toList Token.lastAuthenticationKey.toList sign operand.toList
  given : ∀ option operand, ValueOption.given? options option = some operand →
    option.domain = .datetime → CarriesOffset operand

variable {zone zone' : Zone} {expression key : Option String} {options : ValueOptions}

/-- The filter of criteria on the last authentication is the same in all zones. -/
theorem agreeIn_ofCriteria (zone zone' : Zone) {limit : Nat} {criteria : List Criterion}
    (hfield : ∀ c ∈ criteria, c.field = Token.lastAuthenticationKey)
    (hdates : ∀ c ∈ criteria, c.domain = .datetime → CarriesOffset c.operand) :
    AgreeIn zone zone' (ofCriteria · limit Token.lastAuthenticationKey criteria) := by
  refine ⟨?_, fun filter hfilter token => ?_⟩
  · simp only [ofCriteria, Comparison.ofCriteria_agree zone zone' hdates]
  · obtain ⟨-, comparisons, hmade, rfl⟩ := ofCriteria_eq_some_iff.1 hfilter
    have hholds : ∀ comparison ∈ comparisons, ∀ value,
        comparison.holds zone value = comparison.holds zone' value := by
      refine (Comparison.forall_mem_iff hmade).2 fun c hc comparison hmake =>
        Comparison.holds_agree zone zone' fun placement hplacement => ?_
      rcases Comparison.placement?_of_ofCriterion hmake with hnone | hsome
      · rw [hnone] at hplacement
        cases hplacement
      · rw [hsome, hfield c hc] at hplacement
        cases hplacement
        rfl
    refine Bool.eq_iff_iff.2 ?_
    simp only [accepts_iff]
    refine exists_congr fun value => and_congr_right fun _ => ?_
    exact forall₂_congr fun comparison hmem => by rw [hholds comparison hmem]

/-- An expression on the last authentication is read as a comparison of dates. -/
theorem exists_expressed (h : ComparesInstants expression key options) :
    ∃ expressed, expression.mapM (infoCriterion key) = .ok expressed ∧
      ∀ c ∈ expressed, c.field = Token.lastAuthenticationKey ∧ CarriesOffset c.operand := by
  cases expression with
  | none => exact ⟨none, rfl, nofun⟩
  | some e =>
    obtain ⟨sign, operand, hoffset, hform⟩ := h.expressed e rfl
    have hfield : (Token.lastAuthenticationKey, Domain.datetime) ∈ Scope.info.fields := by decide
    obtain ⟨operator, hsign⟩ := StandsFor.exists_of_ne (by decide : Domain.datetime ≠ .string) sign
    have hread := Criterion.ofExpression_eq_ok hform hfield hsign
    refine ⟨_, mapM_infoCriterion hread h.key_eq, ?_⟩
    rintro _ ⟨⟩
    exact ⟨rfl, hoffset⟩

end FieldFilter

/-- Filters on the last authentication whose dates carry an offset are the same in all zones, and so
is the check of its age. -/
theorem lastAuthentication_agree (zone zone' : Zone) (limit : Nat) :
    (∀ expression key options, FieldFilter.ComparesInstants expression key options →
      FieldFilter.AgreeIn zone zone' (FieldFilter.ofInfo · limit expression key options)) ∧
    ∀ now age token, Selection.isRecent? ⟨zone, now⟩ age token =
      Selection.isRecent? ⟨zone', now⟩ age token := by
  refine ⟨fun expression key options h => ?_, fun now age token => ?_⟩
  · obtain ⟨expressed, hread, hexpressed⟩ := FieldFilter.exists_expressed h
    have hfield : ∀ c ∈ expressed.toList, c.field = Token.lastAuthenticationKey := fun c hc =>
      (hexpressed c (Option.mem_toList.1 hc)).1
    have hdates : ∀ c ∈ expressed.toList, c.domain = .datetime → CarriesOffset c.operand :=
      fun c hc _ => (hexpressed c (Option.mem_toList.1 hc)).2
    cases key with
    | none =>
      simp only [FieldFilter.ofInfo_none_of_ok hread fun c hc => (hexpressed c hc).1]
      split
      · exact FieldFilter.agreeIn_ofCriteria zone zone' hfield hdates
      · exact ⟨rfl, nofun⟩
    | some key =>
      obtain rfl := h.key_eq key rfl
      simp only [FieldFilter.ofInfo_of_ok hread]
      refine FieldFilter.agreeIn_ofCriteria zone zone' ?_ ?_
      · exact List.forall_mem_append.2
          ⟨hfield, ValueOptions.forall_mem_criteria_iff.2 fun _ _ _ => rfl⟩
      · exact List.forall_mem_append.2 ⟨hdates, ValueOptions.forall_mem_criteria_iff.2 h.given⟩
  · simp only [Selection.isRecent?, readStoredInstant_universalTime zone zone']

/-- An hour east of universal time and in universal time, a comparison with a time of summer time
is the same. -/
theorem lastAuthentication_agree_summer : ∃ filter,
    FieldFilter.ofInfo (.fixed 3600) 1000 (some "last_auth >= 2021-06-01T10:00+02:00") none {} =
      .ok (some filter) ∧
    FieldFilter.ofInfo .universal 1000 (some "last_auth >= 2021-06-01T10:00+02:00") none {} =
      .ok (some filter) ∧
    ∀ token, filter.accepts (.fixed 3600) token = filter.accepts .universal token := by
  have hends : IsOffset ('+' :: '0' :: '2' :: ([':'] ++ ['0', '0'])) :=
    .signed (by decide) rfl rfl (List.forall_mem_singleton.2 rfl) rfl rfl
  have hoffset : CarriesOffset "2021-06-01T10:00+02:00" :=
    ⟨_, ⟨"2021-06-01T10:00".toList, by decide⟩, hends⟩
  have hform : HasForm "last_auth >= 2021-06-01T10:00+02:00".toList
      Token.lastAuthenticationKey.toList .atLeast "2021-06-01T10:00+02:00".toList :=
    (hasForm_iff (by decide)).2 ⟨by decide, _, _, rfl, by decide, by decide⟩
  have hcompares : FieldFilter.ComparesInstants (some "last_auth >= 2021-06-01T10:00+02:00") none
      {} := by
    refine ⟨nofun, ?_, ?_⟩
    · rintro _ ⟨⟩
      exact ⟨.atLeast, _, hoffset, hform⟩
    · rintro option _ hgiven
      cases option <;> cases hgiven
  obtain ⟨hmade, haccepts⟩ :=
    (lastAuthentication_agree (.fixed 3600) .universal 1000).1 _ _ _ hcompares
  cases hfilter : FieldFilter.ofInfo (.fixed 3600) 1000
      (some "last_auth >= 2021-06-01T10:00+02:00") none {} with
  | error error => cases hfilter
  | ok made =>
    cases made with
    | none => cases hfilter
    | some filter => exact ⟨filter, rfl, hmade ▸ hfilter, haccepts filter hfilter⟩

end TokenInventory
