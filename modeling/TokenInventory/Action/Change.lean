import TokenInventory.Action.Basic

/-!
# Changes of tokens

A change is first planned for a token: what it makes of the token and what is told about it. Then
the plan is carried out in the store. Disabling a disabled token and taking away an owner that is
not there leave the store alone.
-/

namespace TokenInventory

/-- What a change makes of a token. -/
inductive Effect
  /-- The store keeps what it has. -/
  | none
  | save (token : Token)
  | remove

/-- A planned change of a token. -/
structure ChangePlan where
  effect : Effect
  /-- What the change did, in short. -/
  detail : String
  /-- The lines that tell of the change. -/
  status : List String := []

/-- The given realms and that of the owner. -/
def realmsWithOwner (realms : List String) (token : Token) : List String :=
  match token.owner with
  | none => realms
  | some owner => if realms.contains owner.realm then realms else realms ++ [owner.realm]

namespace Change

/-- What a change does to a token. -/
def plan (token : Token) : Change → ChangePlan
  | setRealms realms =>
    let realms := realmsWithOwner realms token
    { effect := .save { token with realms }
      detail := "realms set"
      status :=
        ["Setting realms of token " ++ token.serial ++ " to " ++ Text.joinWith ", " realms ++ "."] }
  | disable =>
    if token.active then
      { effect := .save { token with active := false }
        detail := "disabled"
        status := ["Disabling token " ++ token.serial] }
    else { effect := .none, detail := "already disabled" }
  | delete =>
    { effect := .remove, detail := "deleted", status := ["Deleting token " ++ token.serial] }
  | unassign =>
    if token.isAssigned then
      { effect := .save { token with owner := none, failures := 0 }
        detail := "unassigned"
        status := ["Unassigning token " ++ token.serial] }
    else { effect := .none, detail := "not assigned" }
  | setDescription description =>
    { effect := .save { token with description }
      detail := "description set"
      status := ["Setting description for token " ++ token.serial ++ ": " ++ description] }
  | setInfo pairs =>
    { effect := .save (pairs.foldl (fun token (key, value) => token.withInfo key value) token)
      detail := "tokeninfo set"
      status := pairs.map fun (key, value) =>
        "Setting tokeninfo for token " ++ token.serial ++ ": " ++ key ++ "=" ++ value }
  | deleteInfo keys =>
    { effect := .save { token with info := keys.foldl (fun info key => info.erase key) token.info }
      detail := "tokeninfo deleted"
      status := keys.map fun key =>
        "Deleting tokeninfo for token " ++ token.serial ++ ": " ++ key }

end Change

/-- Carries an effect on the token with a serial out in a store. -/
def Effect.carryOut (serial : String) (store : Store) : Effect → Except StoreError Unit × Store
  | none => (.ok (), store)
  | save token => store.save token
  | remove => store.remove serial

end TokenInventory
