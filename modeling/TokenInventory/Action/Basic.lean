import TokenInventory.Store.Basic

/-!
# Actions

What is done with every selected token: it is listed, exported or changed. The parameters of an
action that would fail for every token are refused before any token is touched.
-/

namespace TokenInventory

/-- How tokens are exported. -/
inductive ExportFormat
  /-- A row for each token. -/
  | rows
  /-- A list of entries. -/
  | entries
  /-- A container with sealed seeds. -/
  | container
  deriving DecidableEq, Repr

namespace ExportFormat

/-- The name of a format. -/
def name : ExportFormat → String
  | rows => "csv"
  | entries => "yaml"
  | container => "pskc"

/-- The format with a name, whatever the case of its letters. -/
def ofName (s : String) : Except String ExportFormat :=
  match Text.lowered s with
  | "csv" => .ok rows
  | "yaml" => .ok entries
  | "pskc" => .ok container
  | other => .error ("unknown export format '" ++ other ++ "', expected csv, yaml or pskc")

end ExportFormat

/-- A change of tokens in the store. -/
inductive Change
  | setRealms (realms : List String)
  | disable
  | delete
  | unassign
  | setDescription (description : String)
  | setInfo (pairs : List (String × String))
  | deleteInfo (keys : List String)
  deriving DecidableEq, Repr

/-- The name of a change. -/
def Change.name : Change → String
  | setRealms _ => "set_realms"
  | disable => "disable"
  | delete => "delete"
  | unassign => "unassign"
  | setDescription _ => "set_description"
  | setInfo _ => "set_tokeninfo"
  | deleteInfo _ => "delete_tokeninfo"

/-- What is done with every selected token. -/
inductive Action
  /-- Show the token and its owner with further attributes, or only count the tokens
  of each owner. -/
  | list (isSummary : Bool) (attributes : List String)
  | exportAs (format : ExportFormat) (inBase32 : Bool)
  | change (c : Change)
  deriving DecidableEq, Repr

namespace Action

/-- The name of an action. -/
def name : Action → String
  | list _ _ => "list"
  | exportAs _ _ => "export"
  | change c => c.name

/-- Whether an action changes the store. -/
def isMutating : Action → Bool
  | change _ => true
  | _ => false

end Action

/-- Why a parameter of an action is refused. -/
inductive ParameterReason
  | noRealms
  | unknownRealm (realm : String)
  | noDescription
  | noInfo
  | noInfoKeys
  | notAPair (item : String)
  deriving DecidableEq, Repr

/-- The wording of a reason. -/
def ParameterReason.message : ParameterReason → String
  | noRealms => "no realms given"
  | unknownRealm realm => "realm '" ++ realm ++ "' does not exist"
  | noDescription => "no description given"
  | noInfo => "no tokeninfo given"
  | noInfoKeys => "no tokeninfo keys given"
  | notAPair item => "expected key:value, got '" ++ item ++ "'"

/-- A refused parameter of an action. -/
structure ParameterError where
  action : String
  reason : ParameterReason
  deriving DecidableEq, Repr

/-- The wording of an error. -/
def ParameterError.message (e : ParameterError) : String :=
  "Invalid parameter for action '" ++ e.action ++ "': " ++ e.reason.message

/-- Why the parameters of a change would fail for every token. -/
def Change.refusal? (store : Store) : Change → Option ParameterReason
  | setRealms [] => some .noRealms
  | setRealms realms => (realms.find? fun realm => !store.knowsRealm realm).map .unknownRealm
  | setDescription "" => some .noDescription
  | setInfo [] => some .noInfo
  | deleteInfo [] => some .noInfoKeys
  | _ => none

/-- Refuses parameters that would fail for every token. -/
def Action.validate (store : Store) : Action → Except ParameterError Unit
  | .change c =>
    match c.refusal? store with
    | some reason => .error { action := c.name, reason }
    | none => .ok ()
  | _ => .ok ()

/-- The items between commas, without blanks around them; empty items do not count. -/
def listItems (s : String) : List String :=
  ((Text.splitAll ',' s.toList).map fun item => String.ofList (Text.trim item)).filter (· ≠ "")

/-- The key and the value in an item, without blanks around them. -/
def infoPair (item : String) : Except ParameterError (String × String) :=
  match Text.splitFirst? ':' item.toList with
  | some (key, value) =>
    if Text.trim key = [] then .error { action := "set_tokeninfo", reason := .notAPair item }
    else .ok (String.ofList (Text.trim key), String.ofList (Text.trim value))
  | none => .error { action := "set_tokeninfo", reason := .notAPair item }

/-- The pairs of keys and values between commas. -/
def infoPairs (s : String) : Except ParameterError (List (String × String)) :=
  (listItems s).mapM infoPair

end TokenInventory
