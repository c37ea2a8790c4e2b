import TokenInventory.Criteria.Comparison
import TokenInventory.Criteria.Expression

/-!
# Field filters

A filter evaluates comparisons on one field of a token; all of them have to hold, and a token
without the field does not match. A filter on an info entry comes from an expression, from options
that each give one operand for a key, or from both, which then have to name the same key.
-/

namespace TokenInventory

/-- Comparisons on one field. -/
structure FieldFilter where
  scope : Scope
  field : String
  comparisons : List Comparison

namespace FieldFilter

/-- The value of a field of a token. -/
def value? (scope : Scope) (field : String) (token : Token) : Option Value :=
  match scope with
  | .info => (token.info.get? field).map Value.text
  | .column => token.column? field

/-- Whether a token has the field and all comparisons hold of it. -/
def accepts (zone : Zone) (filter : FieldFilter) (token : Token) : Bool :=
  match value? filter.scope filter.field token with
  | none => false
  | some value => filter.comparisons.all fun c => c.holds zone value

end FieldFilter

/-- Operands for one info entry, each given by an option of its own. -/
structure ValueOptions where
  value : Option String := none
  greaterThan : Option String := none
  lessThan : Option String := none
  after : Option String := none
  before : Option String := none
  deriving DecidableEq, Repr

namespace ValueOptions

/-- The options with their operators and domains, in their order. -/
def rows (options : ValueOptions) : List (Option String × Operator × Domain) :=
  [(options.value, .eq, .string), (options.greaterThan, .gt, .integer),
    (options.lessThan, .lt, .integer), (options.after, .after, .datetime),
    (options.before, .before, .datetime)]

/-- Whether no option is given. -/
def isEmpty (options : ValueOptions) : Bool :=
  options.rows.all fun row => row.1.isNone

/-- The criteria of the options on a field. -/
def criteria (options : ValueOptions) (field : String) : List Criterion :=
  options.rows.filterMap fun (operand, operator, domain) =>
    operand.map fun operand => { field, operator, operand, domain }

end ValueOptions

namespace FieldFilter

/-- The criterion of an expression, which has to be on the key that was given, if one was. -/
def infoCriterion (key : Option String) (expression : String) : Except CriteriaError Criterion := do
  let c ← Criterion.ofExpression .info expression
  match key with
  | none => return c
  | some key =>
    if key = c.field then return c else .error (.malformed expression (.otherKeyGiven key))

/-- The filter on an info entry by an expression and value options; `none` if neither is given. -/
def ofInfo (zone : Zone) (limit : Nat) (expression key : Option String) (options : ValueOptions) :
    Except CriteriaError (Option FieldFilter) := do
  let expressed ← expression.mapM (infoCriterion key)
  let optional ←
    if options.isEmpty then .ok []
    else
      match key with
      | none => .error (.malformed "--tokeninfo-value*" .keyRequired)
      | some key => .ok (options.criteria key)
  match expressed.map Criterion.field <|> key, expressed.toList ++ optional with
  | some field, c :: criteria => do
    let comparisons ← Comparison.ofCriteria zone limit (c :: criteria)
    return some { scope := .info, field, comparisons }
  | _, _ => return none

/-- The filter on a column by an expression. A column with a truth value is compared with a truth
value or a number only. -/
def ofColumn (zone : Zone) (limit : Nat) (expression : String) :
    Except CriteriaError FieldFilter := do
  let c ← Criterion.ofExpression .column expression
  if flagColumns.contains c.field && (flagOrNumber? c.operand).isNone then
    .error (.invalidOperand c.field c.domain c.operand)
  else
    let comparisons ← Comparison.ofCriteria zone limit [c]
    return { scope := .column, field := c.field, comparisons }

end FieldFilter

end TokenInventory
