import TokenInventory.Proofs.Criteria.Trichotomy
import TokenInventory.Proofs.Pattern.Plain
import TokenInventory.Proofs.Text.Blank
import TokenInventory.Proofs.Text.Decimal

/-!
# Columns with a truth value

A column with a truth value is compared with a truth value or a number (`DenotesFlag`). The operand
is then read as a pattern like every other text, although no text is ever compared with it. A text
that denotes a truth value or a number is a pattern for itself unless it begins with `+`, so the two
readings differ for numbers with this sign, and for numbers that are too long for a pattern
(`FieldFilter.ofColumn_flag`).
-/

namespace TokenInventory

/-- Whether a text denotes a number that truth values are compared with: a truth value in small or
capital letters, or a 64-bit integer. -/
inductive DenotesFlag (s : List Char) : Int64 → Prop
  | yes : Text.lower s = "true".toList → DenotesFlag s 1
  | no : Text.lower s = "false".toList → DenotesFlag s 0
  | number {n : Int64} : Text.IsNumeral s n.toInt → DenotesFlag s n

namespace DenotesFlag

variable {s : List Char} {n : Int64}

theorem ne_nil (h : DenotesFlag s n) : s ≠ [] := by
  rcases h with h | h | h
  · rintro rfl
    cases h
  · rintro rfl
    cases h
  · exact h.ne_nil

/-- Letters of a word are not special in a pattern, in capitals as little as in small letters. -/
theorem not_mem_specialChars_of_lower {word : List Char}
    (hword : Pattern.specialChars.all (!word.contains ·.toLower) = true)
    (h : Text.lower s = word) : ∀ c ∈ s, c ∉ Pattern.specialChars := fun _ hc =>
  Text.not_mem_of_all hword (List.contains_iff_mem.2 (h ▸ List.mem_map_of_mem hc))

/-- Only the sign `+` is special in a pattern. -/
theorem head?_eq_or_plain (h : DenotesFlag s n) :
    s.head? = some '+' ∨ ∀ c ∈ s, c ∉ Pattern.specialChars := by
  rcases h with h | h | h
  · exact .inr (not_mem_specialChars_of_lower rfl h)
  · exact .inr (not_mem_specialChars_of_lower rfl h)
  · refine h.head?_eq_or.imp_right fun hall c hc => ?_
    rcases hall c hc with hdigit | rfl
    · exact Text.not_mem_of_all rfl hdigit
    · decide

/-- Which of the texts that denote a number are patterns. -/
theorem exists_ofText?_iff (h : DenotesFlag s n) {limit : Nat} :
    (∃ pattern, Pattern.ofText? limit (String.ofList s) = some pattern) ↔
      s.head? ≠ some '+' ∧ s.length ≤ limit := by
  rw [← Option.ne_none_iff_exists', Ne]
  by_cases hplus : s.head? = some '+'
  · simp [Pattern.ofText?_of_plus (s := String.ofList s) (by simpa using hplus), hplus]
  · have hplain := h.head?_eq_or_plain.resolve_left hplus
    have hnil : String.ofList s ≠ "" := by simpa using h.ne_nil
    rw [Pattern.ofText?_eq_none_iff hnil (by simpa using hplain)]
    simp [hplus]

end DenotesFlag

theorem flagOrNumber?_eq_some_iff {operand : String} {n : Int64} :
    flagOrNumber? operand = some n ↔ DenotesFlag (Text.trim operand.toList) n := by
  unfold flagOrNumber?
  dsimp only
  constructor
  · split
    · next h =>
      rintro ⟨⟩
      exact .yes h
    · split
      · next h =>
        rintro ⟨⟩
        exact .no h
      · exact fun h => .number (Text.readInt64_eq_some_iff.1 h)
  · rintro (h | h | h)
    · rw [if_pos h]
    · rw [h, if_neg (by decide), if_pos rfl]
    · -- numerals have no letters, so they are none of the two words
      have hword : ∀ word, 'e' ∈ word → Text.lower (Text.trim operand.toList) ≠ word := by
        rintro _ hmem rfl
        rw [h.lower_eq] at hmem
        rcases h.of_mem hmem with h | h | h <;> cases h
      rw [if_neg (hword _ (by decide)), if_neg (hword _ (by decide)),
        Text.readInt64_eq_some_iff.2 h]

namespace FieldFilter

variable {column : String}

theorem mem_fields_of_mem_flagColumns (h : column ∈ flagColumns) :
    (column, Domain.string) ∈ Scope.column.fields := by
  have hall : ∀ column ∈ flagColumns, (column, Domain.string) ∈ Scope.column.fields := by decide
  exact hall column h

theorem exists_column?_of_mem_flagColumns (h : column ∈ flagColumns) (token : Token) :
    ∃ flag, token.column? column = some (.flag flag) := by
  have hcases : column = "active" ∨ column = "revoked" ∨ column = "locked" := by
    simpa [flagColumns] using h
  rcases hcases with rfl | rfl | rfl <;> exact ⟨_, rfl⟩

/-- An expression without a value is refused. -/
theorem ofColumn_of_blank (zone : Zone) (limit : Nat) (h : column ∈ flagColumns) {operand : String}
    (hblank : Text.trim operand.toList = []) (sign : OperatorSign) :
    ofColumn zone limit (sign.expression column operand) =
      .error (.malformed (sign.expression column operand) .missingValue) := by
  have hfield := mem_fields_of_mem_flagColumns h
  have hname := Scope.isFieldName_of_mem_fields hfield
  have hleft : Text.trim (column.toList ++ [' ']) = column.toList := by
    rw [Text.trim_append_blank _ (by simp [Text.isBlank]), trim_of_isFieldName hname]
  have hright : Text.trim (' ' :: operand.toList) = [] :=
    (Text.blank_append_trim (w := [' ']) _ (by simp [Text.isBlank])).trans hblank
  rw [ofColumn, Criterion.ofExpression,
    splitOperator?_eq_some_iff.2 (standsFirst_expression hfield operand sign)]
  simp only [hleft, hname, hright]
  rfl

/-- A comparison of a column with a truth value needs an operand that denotes a number and is a
pattern. -/
theorem ofColumn_eq (zone : Zone) (limit : Nat) (h : column ∈ flagColumns) {operand : String}
    (hne : Text.trim operand.toList ≠ []) :
    ofColumn zone limit (OperatorSign.equal.expression column operand) =
      match flagOrNumber? operand, Pattern.ofText? limit (Text.trimmed operand) with
      | some n, some pattern =>
        .ok { scope := .column, field := column, comparisons := [.fits pattern (some n)] }
      | _, _ => .error (.invalidOperand column .string (Text.trimmed operand)) := by
  have hfield := mem_fields_of_mem_flagColumns h
  have hform := hasForm_expression hfield hne .equal
  have htrim : flagOrNumber? (Text.trimmed operand) = flagOrNumber? operand := by
    simp [flagOrNumber?, Text.trimmed, Text.trim_trim]
  rw [ofColumn, Criterion.ofExpression_eq_ok hform hfield (.equal .string)]
  cases hnumber : flagOrNumber? operand with
  | none => simp [h, htrim, hnumber, bind, Except.bind]
  | some n =>
    cases hpattern : Pattern.ofText? limit (Text.trimmed operand) <;>
      simp [htrim, hnumber, hpattern, Comparison.ofCriteria, Comparison.ofCriterion, bind,
        Except.bind, pure, Except.pure]

theorem accepts_fits_iff {zone : Zone} {pattern : Pattern} {n : Int64} {token : Token} {flag : Bool}
    (hflag : token.column? column = some (.flag flag)) :
    accepts zone { scope := .column, field := column, comparisons := [.fits pattern (some n)] }
      token = true ↔ (if flag then 1 else 0) = n := by
  simp [accepts, value?, hflag, Comparison.holds, Value.integer?]

/-- A column with a truth value can be compared with `true`, `false` and the 64-bit integers, but
for the integers that are written with the sign `+` and those that are too long for a pattern. A
token passes if its truth value, taken as 1 or 0, is the number. -/
theorem ofColumn_flag (zone : Zone) (limit : Nat) (hcolumn : column ∈ flagColumns)
    (operand : String) :
    ((∃ filter, ofColumn zone limit (OperatorSign.equal.expression column operand) = .ok filter) ↔
      (∃ n, DenotesFlag (Text.trim operand.toList) n) ∧
        (Text.trim operand.toList).head? ≠ some '+' ∧
          (Text.trim operand.toList).length ≤ limit) ∧
    ∀ filter, ofColumn zone limit (OperatorSign.equal.expression column operand) = .ok filter →
      ∃ n, DenotesFlag (Text.trim operand.toList) n ∧
        ∀ token, ∃ flag, token.column? column = some (.flag flag) ∧
          (filter.accepts zone token = true ↔ (if flag then 1 else 0) = n) := by
  by_cases hblank : Text.trim operand.toList = []
  · have hnot : ¬∃ n, DenotesFlag (Text.trim operand.toList) n := fun ⟨_, h⟩ => h.ne_nil hblank
    simp [ofColumn_of_blank zone limit hcolumn hblank, hnot]
  · rw [ofColumn_eq zone limit hcolumn hblank]
    cases hnumber : flagOrNumber? operand with
    | none =>
      have hnot : ¬∃ n, DenotesFlag (Text.trim operand.toList) n := fun ⟨n, h⟩ => by
        rw [flagOrNumber?_eq_some_iff.2 h] at hnumber
        cases hnumber
      simp [hnot]
    | some n =>
      have hdenotes := flagOrNumber?_eq_some_iff.1 hnumber
      rw [Text.trimmed, ← hdenotes.exists_ofText?_iff]
      cases Pattern.ofText? limit (String.ofList (Text.trim operand.toList)) with
      | none => simp
      | some pattern =>
        refine ⟨iff_of_true ⟨_, rfl⟩ ⟨⟨n, hdenotes⟩, pattern, rfl⟩, ?_⟩
        rintro _ ⟨⟩
        refine ⟨n, hdenotes, fun token => ?_⟩
        obtain ⟨flag, hflag⟩ := exists_column?_of_mem_flagColumns hcolumn token
        exact ⟨flag, hflag, accepts_fits_iff hflag⟩

/-- With the sign `-` an integer is an operand. -/
theorem ofColumn_flag_minus : "active" ∈ flagColumns ∧
    ∃ filter, ofColumn .universal 1000 "active == -0" = .ok filter ∧
      ∀ token, filter.accepts .universal token = true ↔ token.active = false := by
  have hcolumn : "active" ∈ flagColumns := by decide
  have hnumber : DenotesFlag (Text.trim "-0".toList) 0 :=
    flagOrNumber?_eq_some_iff.1 (by decide)
  obtain ⟨hok, haccepts⟩ := ofColumn_flag .universal 1000 hcolumn "-0"
  obtain ⟨filter, hfilter⟩ := hok.2 ⟨⟨0, hnumber⟩, by decide, by decide⟩
  obtain ⟨n, hn, htoken⟩ := haccepts filter hfilter
  have hzero : n = 0 := Option.some.inj
    ((flagOrNumber?_eq_some_iff.2 hn).symm.trans (flagOrNumber?_eq_some_iff.2 hnumber))
  refine ⟨hcolumn, filter, hfilter, fun token => ?_⟩
  obtain ⟨flag, hflag, hiff⟩ := htoken token
  cases hflag
  rw [hiff, hzero]
  cases token.active <;> decide

/-- With the sign `+` it is none, although it denotes the same number as without. -/
theorem ofColumn_flag_plus : DenotesFlag ['+', '1'] 1 ∧
    ofColumn .universal 1000 "active == +1" = .error (.invalidOperand "active" .string "+1") :=
  ⟨.number (Text.readInt64_eq_some_iff.1 (by decide)), rfl⟩

end FieldFilter

end TokenInventory
