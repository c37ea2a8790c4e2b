import TokenInventory.Log.Event

/-!
# Outcomes

How an action ended for one token, and how often it ended in each way.
-/

namespace TokenInventory

/-- How an action ended for a token. -/
inductive OutcomeStatus
  | succeeded
  | failed
  /-- The token was left out of an export. -/
  | skipped
  deriving DecidableEq, Repr

namespace OutcomeStatus

/-- The name of a status. -/
def name : OutcomeStatus → String
  | succeeded => "ok"
  | failed => "failed"
  | skipped => "skipped"

/-- The status with a name. -/
def ofName? : String → Option OutcomeStatus
  | "ok" => some succeeded
  | "failed" => some failed
  | "skipped" => some skipped
  | _ => none

end OutcomeStatus

/-- The result of an action for the token with a serial. -/
structure Outcome where
  serial : String
  status : OutcomeStatus
  detail : String
  deriving DecidableEq, Repr

namespace Outcome

/-- Whether the action succeeded; a token that was left out is no success. -/
def isSuccess (outcome : Outcome) : Bool :=
  outcome.status = .succeeded

/-- Whether the token was left out. -/
def isSkip (outcome : Outcome) : Bool :=
  outcome.status = .skipped

/-- Whether the action failed. -/
def isFailure (outcome : Outcome) : Bool :=
  outcome.status = .failed

/-- The event that tells of a failure. -/
def failureEvent (outcome : Outcome) : Log.Event where
  level := .debug
  origin := .outcome
  message := "action failed"
  fields := [("serial", .text outcome.serial), ("detail", .text outcome.detail)]

end Outcome

/-- How many tokens an action was applied to, and how often it ended in each way. -/
structure Tally where
  processed : Nat := 0
  succeeded : Nat := 0
  failed : Nat := 0
  skipped : Nat := 0
  deriving DecidableEq, Repr

namespace Tally

/-- The tally after one more outcome. -/
def record (t : Tally) (outcome : Outcome) : Tally :=
  let t := { t with processed := t.processed + 1 }
  match outcome.status with
  | .succeeded => { t with succeeded := t.succeeded + 1 }
  | .skipped => { t with skipped := t.skipped + 1 }
  | .failed => { t with failed := t.failed + 1 }

/-- Whether the action failed for a token. -/
def hasFailures (t : Tally) : Bool :=
  0 < t.failed

/-- The tally as it is shown. -/
def shown (t : Tally) : String :=
  Text.ofNat t.processed ++ " processed, " ++ Text.ofNat t.succeeded ++ " succeeded, " ++
    Text.ofNat t.failed ++ " failed, " ++ Text.ofNat t.skipped ++ " skipped"

end Tally

end TokenInventory
