import TokenInventory.Criteria.Basic
import TokenInventory.Text.Blank

/-!
# Filter expressions

A filter expression is a field, one of the operators `==`, `>=` and `<=`, and a value, with blanks
between them. The first operator counts, so a value may hold operators of its own. `>=` and `<=`
stand for strictly greater or later and strictly smaller or earlier, and do not apply to texts.
-/

namespace TokenInventory

/-- An operator as it is written. -/
inductive OperatorSign
  | equal
  | atLeast
  | atMost
  deriving DecidableEq, Repr

namespace OperatorSign

/-- The characters of an operator. -/
def chars : OperatorSign → List Char
  | equal => ['=', '=']
  | atLeast => ['>', '=']
  | atMost => ['<', '=']

/-- What an operator stands for on a domain. -/
def operator? : OperatorSign → Domain → Option Operator
  | equal, _ => some .eq
  | atLeast, .integer => some .gt
  | atLeast, .datetime => some .after
  | atMost, .integer => some .lt
  | atMost, .datetime => some .before
  | _, .string => none

end OperatorSign

/-- The parts of a text around the first operator in it. -/
def splitOperator? : List Char → Option (List Char × OperatorSign × List Char)
  | '=' :: '=' :: s => some ([], .equal, s)
  | '>' :: '=' :: s => some ([], .atLeast, s)
  | '<' :: '=' :: s => some ([], .atMost, s)
  | [] => none
  | c :: s => (splitOperator? s).map fun (field, sign, value) => (c :: field, sign, value)

/-- Whether a text has the form of a field name: a letter or an underscore first, then letters,
digits, underscores, dots and dashes. -/
def isFieldName : List Char → Bool
  | [] => false
  | c :: s =>
    (c.isAlpha || c == '_') &&
      s.all fun c => c.isAlphanum || c == '_' || c == '.' || c == '-'

/-- Reads a filter expression on the fields of a scope. -/
def Criterion.ofExpression (scope : Scope) (expression : String) :
    Except CriteriaError Criterion :=
  match splitOperator? expression.toList with
  | none => .error (.malformed expression .expectedComparison)
  | some (field, sign, operand) =>
    let field := Text.trim field
    let operand := Text.trim operand
    if !isFieldName field then .error (.malformed expression .expectedComparison)
    else if operand = [] then .error (.malformed expression .missingValue)
    else
      let field := String.ofList field
      match scope.domain? field with
      | none => .error (.unknownField scope field)
      | some domain =>
        match sign.operator? domain with
        | none => .error (.malformed expression (.unordered field))
        | some operator => .ok { field, operator, operand := String.ofList operand, domain }

end TokenInventory
