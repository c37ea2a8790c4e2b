import TokenInventory.Store.Basic

/-!
# Listings

A listing shows a token and its owner as texts between single quotes. A summary counts the tokens of
each owner; tokens without a known owner are counted together.
-/

namespace TokenInventory

/-- The owner of a token as far as a listing is concerned. -/
inductive Ownership
  | unassigned
  | known (user : User)
  /-- There is an owner who is not in the directory. -/
  | unknown

namespace Ownership

/-- The owner of a token in a store. -/
def ofToken (store : Store) (token : Token) : Ownership :=
  match token.owner with
  | none => unassigned
  | some owner =>
    match store.resolve? owner with
    | some user => known user
    | none => unknown

/-- The user who owns the token. -/
def user? : Ownership → Option User
  | known user => some user
  | _ => none

end Ownership

/-- Texts between single quotes, with commas between them. -/
def quotedRow (values : List String) : String :=
  Text.joinWith "," (values.map fun v => "'" ++ v ++ "'")

/-- What is shown of a user, with further attributes at the end. -/
def userColumns (user : User) (attributes : List String) : List String :=
  [user.username, user.givenName, user.surname, user.uid, user.resolver, user.realm] ++
    attributes.map fun name => (user.info? name).getD ""

/-- What is shown in place of an owner who is not in the directory. -/
def unknownOwnerMark : String :=
  "**failed to resolve user**"

/-- What tokens without a known owner are counted under. -/
def noOwnerMark : String :=
  "N/A, , , , , "

/-- The row of a token. -/
def listingRow (token : Token) (attributes : List String) (owner : Ownership) : String :=
  let ownerColumns :=
    match owner with
    | .unassigned => []
    | .known user => userColumns user attributes
    | .unknown => [unknownOwnerMark]
  quotedRow (token.serial :: token.tokenType :: ownerColumns)

/-- What the tokens of an owner are counted under. -/
def ownerLabel (attributes : List String) : Ownership → String
  | .known user => quotedRow (userColumns user attributes)
  | _ => noOwnerMark

/-- The number of tokens of each owner. -/
abbrev OwnerSummary : Type :=
  SortedMap Nat

namespace OwnerSummary

/-- Counts a token of an owner. -/
def add (summary : OwnerSummary) (label : String) : OwnerSummary :=
  SortedMap.insert summary label ((SortedMap.get? summary label).getD 0 + 1)

/-- A line for each owner, in ascending order. -/
def lines (summary : OwnerSummary) : List String :=
  (SortedMap.entries summary).map fun (label, count) => label ++ "," ++ Text.ofNat count

end OwnerSummary

end TokenInventory
