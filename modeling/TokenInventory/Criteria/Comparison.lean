import TokenInventory.Calendar.Spelling
import TokenInventory.Criteria.Basic
import TokenInventory.Pattern.Reader
import TokenInventory.Token.Basic

/-!
# Comparisons

A comparison is a criterion whose operand has been read. Reading can fail, comparing cannot: a value
that is not of the comparison's kind does not match.

The operand of a date is local time unless it says otherwise, and so are stored dates, except for
the time of the last authentication, which is universal time.
-/

namespace TokenInventory

/-- A criterion that is ready to be evaluated. -/
inductive Comparison
  /-- A pattern for texts, and perhaps a number for all other values. -/
  | fits (pattern : Pattern) (number : Option Int64)
  | equals (n : Int64)
  | above (n : Int64)
  | below (n : Int64)
  | sameInstant (instant : Instant) (placement : Placement)
  | later (instant : Instant) (placement : Placement)
  | earlier (instant : Instant) (placement : Placement)

/-- The number that an operand stands for when it is compared with a number or a truth value. -/
def flagOrNumber? (operand : String) : Option Int64 :=
  let operand := Text.trim operand.toList
  if Text.lower operand = "true".toList then some 1
  else if Text.lower operand = "false".toList then some 0
  else Text.readInt64 operand

/-- Where stored dates of a field are placed. -/
def storedPlacement (field : String) : Placement :=
  if field = Token.lastAuthenticationKey then .universalTime else .localTime

namespace Comparison

/-- Reads the operand of a criterion; a pattern may take no more than `limit` states. -/
def ofCriterion (zone : Zone) (limit : Nat) (c : Criterion) : Except CriteriaError Comparison :=
  let invalid : CriteriaError := .invalidOperand c.field c.domain c.operand
  let number (make : Int64 → Comparison) : Except CriteriaError Comparison :=
    match Text.readInt64 (Text.trim c.operand.toList) with
    | none => .error invalid
    | some n => .ok (make n)
  let instant (make : Instant → Placement → Comparison) : Except CriteriaError Comparison :=
    match readInstant zone .localTime c.operand.toList with
    | none => .error invalid
    | some i => .ok (make i (storedPlacement c.field))
  match c.domain, c.operator with
  | .string, .eq =>
    match Pattern.ofText? limit c.operand with
    | none => .error invalid
    | some pattern => .ok (fits pattern (flagOrNumber? c.operand))
  | .integer, .eq => number equals
  | .integer, .gt => number above
  | .integer, .lt => number below
  | .datetime, .eq => instant sameInstant
  | .datetime, .after => instant later
  | .datetime, .before => instant earlier
  | domain, operator => .error (.malformed c.shown (.operatorMismatch operator domain))

/-- The instant that a stored value stands for. -/
def storedInstant? (zone : Zone) (placement : Placement) (value : Value) : Option Instant :=
  value.text?.bind fun s => readStoredInstant zone placement s.toList

/-- Whether a value matches. -/
def holds (zone : Zone) (comparison : Comparison) (value : Value) : Bool :=
  match comparison with
  | fits pattern number =>
    match value with
    | .text s => pattern.fits s
    | other => number.isSome && other.integer? == number
  | equals n => value.integer? == some n
  | above n => value.integer?.any fun x => n < x
  | below n => value.integer?.any fun x => x < n
  | sameInstant i placement => storedInstant? zone placement value == some i
  | later i placement => (storedInstant? zone placement value).any fun x => i.isBefore x
  | earlier i placement => (storedInstant? zone placement value).any fun x => x.isBefore i

/-- The operator of a comparison. -/
def operator : Comparison → Operator
  | fits _ _ | equals _ | sameInstant _ _ => .eq
  | above _ => .gt
  | below _ => .lt
  | later _ _ => .after
  | earlier _ _ => .before

/-- The domain of a comparison. -/
def domain : Comparison → Domain
  | fits _ _ => .string
  | equals _ | above _ | below _ => .integer
  | sameInstant _ _ | later _ _ | earlier _ _ => .datetime

/-- Reads the operands of several criteria; the first error counts. -/
def ofCriteria (zone : Zone) (limit : Nat) (criteria : List Criterion) :
    Except CriteriaError (List Comparison) :=
  criteria.mapM (ofCriterion zone limit)

end Comparison

end TokenInventory
