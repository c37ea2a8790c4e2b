import TokenInventory.CommandLine.Invocation
import TokenInventory.Pattern.Reader

/-!
# Compiling a search

What the command line says about wanted tokens is compiled into a task before the store is opened,
so anything malformed is reported before a token is touched. The first thing that is wrong counts,
in a fixed order: the age, the patterns, the filter on info, the filter on a column, the action.
-/

namespace TokenInventory.CommandLine.FindRequest

/-- The age of a last authentication. -/
def age (s : String) : Except CommandError Age :=
  match Age.ofText? s.toList with
  | some age => .ok age
  | none => .error (.criterion (.malformed s .expectedAge))

/-- About how many states a pattern may take. -/
def patternLimit : Nat :=
  327680

/-- The pattern of an option. -/
def pattern (option : PatternOption) (s : String) : Except CommandError Pattern :=
  match Pattern.ofText? patternLimit s with
  | some p => .ok p
  | none => .error (.pattern option s)

/-- Takes an error of criteria for an error of a command. -/
def criterion {α : Type} : Except CriteriaError α → Except CommandError α
  | .ok a => .ok a
  | .error e => .error (.criterion e)

/-- The selection of the wanted tokens. -/
def selection (zone : Zone) (request : FindRequest) : Except CommandError Selection := do
  let lastAuthentication ← request.lastAuthentication.mapM age
  let serial ← request.serial.mapM (pattern .serial)
  let description ← request.description.mapM (pattern .description)
  let infoFilter ← criterion
    (FieldFilter.ofInfo zone patternLimit request.infoExpression request.infoKey
      request.infoOptions)
  let columnFilter ← criterion
    (request.columnExpression.mapM (FieldFilter.ofColumn zone patternLimit))
  return { lastAuthentication, serial, description, infoFilter, columnFilter
           hasKey := request.hasKey
           lacksKey := request.lacksKey
           orphaned := request.orphaned }

/-- The task of a search. -/
def task (zone : Zone) (request : FindRequest) : Except CommandError Task := do
  let selection ← request.selection zone
  match request.action with
  | .error e => .error (.action e)
  | .ok action =>
    return { admission :=
               { tokenType := request.tokenType
                 active := request.active
                 assigned := request.assigned }
             selection, action
             chunkSize := request.chunkSize }

end TokenInventory.CommandLine.FindRequest
