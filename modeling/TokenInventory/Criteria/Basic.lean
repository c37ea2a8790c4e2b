import TokenInventory.Text.Basic

/-!
# Criteria

A criterion compares one field of a token with an operand. The field lies in one of two scopes, the
columns of the token or its info entries, and its values are taken as numbers, as texts or as dates:
that is the domain of the criterion. A field's domain comes from a table and never from the operand.
-/

namespace TokenInventory

/-- How a criterion compares. -/
inductive Operator
  /-- Equality, or for texts a pattern that fits. -/
  | eq
  /-- A greater number. -/
  | gt
  /-- A smaller number. -/
  | lt
  /-- A later date. -/
  | after
  /-- An earlier date. -/
  | before
  deriving DecidableEq, Repr

namespace Operator

/-- The name of an operator. -/
def name : Operator → String
  | eq => "eq"
  | gt => "gt"
  | lt => "lt"
  | after => "after"
  | before => "before"

/-- The operator with a name. -/
def ofName? : String → Option Operator
  | "eq" => some eq
  | "gt" => some gt
  | "lt" => some lt
  | "after" => some after
  | "before" => some before
  | _ => none

end Operator

/-- What the values of a field are taken as. -/
inductive Domain
  | integer
  | string
  | datetime
  deriving DecidableEq, Repr

namespace Domain

/-- The name of a domain. -/
def name : Domain → String
  | integer => "integer"
  | string => "string"
  | datetime => "datetime"

/-- The domain with a name. -/
def ofName? : String → Option Domain
  | "integer" => some integer
  | "string" => some string
  | "datetime" => some datetime
  | _ => none

/-- Whether the values of a domain are ordered. -/
def isOrdered : Domain → Bool
  | string => false
  | _ => true

end Domain

/-- Where a field of a token lies. -/
inductive Scope
  | info
  | column
  deriving DecidableEq, Repr

namespace Scope

/-- What a field of a scope is called. -/
def fieldNoun : Scope → String
  | info => "tokeninfo key"
  | column => "token attribute"

/-- The fields of a scope that criteria may name, each with its domain. -/
def fields : Scope → List (String × Domain)
  | info =>
    [("last_auth", .datetime), ("count_auth", .integer), ("count_auth_max", .integer),
      ("count_auth_success", .integer), ("count_auth_success_max", .integer),
      ("validity_period_start", .datetime), ("validity_period_end", .datetime),
      ("next_pin_change", .datetime), ("timeStep", .integer), ("timeWindow", .integer),
      ("timeShift", .integer), ("hashlib", .string), ("tokenkind", .string),
      ("import_file", .string)]
  | column =>
    [("serial", .string), ("tokentype", .string), ("description", .string), ("active", .string),
      ("revoked", .string), ("locked", .string), ("otplen", .integer), ("count", .integer),
      ("maxfail", .integer), ("failcount", .integer), ("rollout_state", .string),
      ("user_id", .string), ("resolver", .string)]

/-- The domain of a field. -/
def domain? (scope : Scope) (field : String) : Option Domain :=
  (scope.fields.find? fun row => row.1 == field).map Prod.snd

/-- The names of the fields of a scope. -/
def fieldNames (scope : Scope) : String :=
  Text.joinWith ", " (scope.fields.map Prod.fst)

end Scope

/-- The columns that hold a truth value. -/
def flagColumns : List String :=
  ["active", "revoked", "locked"]

/-- A comparison of a field with an operand. -/
structure Criterion where
  field : String
  operator : Operator
  operand : String
  domain : Domain
  deriving DecidableEq, Repr

namespace Criterion

/-- The criterion as it is shown. -/
def shown (c : Criterion) : String :=
  c.field ++ " " ++ c.operator.name ++ " '" ++ c.operand ++ "' (" ++ c.domain.name ++ ")"

end Criterion

/-- Why a text is no criterion. -/
inductive MalformedReason
  /-- The text is no field, operator and value. -/
  | expectedComparison
  | missingValue
  /-- The field can only be compared for equality. -/
  | unordered (field : String)
  /-- Another info entry was named already. -/
  | otherKeyGiven (key : String)
  | keyRequired
  | operatorMismatch (operator : Operator) (domain : Domain)
  | expectedAge
  deriving DecidableEq, Repr

namespace MalformedReason

/-- The wording of a reason. -/
def message : MalformedReason → String
  | expectedComparison => "expected <field> ==|>=|<= <value>"
  | missingValue => "missing value"
  | unordered field => "'" ++ field ++ "' cannot be ordered, only '==' applies"
  | otherKeyGiven key => "only one tokeninfo key can be filtered, '" ++ key ++ "' was already given"
  | keyRequired => "a tokeninfo key is required"
  | operatorMismatch operator domain =>
    "operator " ++ operator.name ++ " does not apply to " ++ domain.name ++ " values"
  | expectedAge => "expected an age like 10h, 7d or 2y"

end MalformedReason

/-- Why criteria could not be put together. -/
inductive CriteriaError
  | malformed (expression : String) (reason : MalformedReason)
  | unknownField (scope : Scope) (field : String)
  | invalidOperand (field : String) (domain : Domain) (operand : String)
  deriving DecidableEq, Repr

namespace CriteriaError

/-- The wording of an error. -/
def message : CriteriaError → String
  | malformed expression reason => "Malformed criterion '" ++ expression ++ "': " ++ reason.message
  | unknownField scope field =>
    "Unknown " ++ scope.fieldNoun ++ " '" ++ field ++ "'. Allowed are: " ++ scope.fieldNames
  | invalidOperand field domain operand =>
    "Not a valid " ++ domain.name ++ " for '" ++ field ++ "': " ++ operand

end CriteriaError

end TokenInventory
