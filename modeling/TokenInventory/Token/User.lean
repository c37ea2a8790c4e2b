import TokenInventory.SortedMap

/-!
# Users

A token may name the user it belongs to by a number, a resolver and a realm. The user directory
tells who that is, if anybody.
-/

namespace TokenInventory

/-- How a token names its owner. -/
structure Owner where
  userId : String
  resolver : String
  realm : String
  deriving DecidableEq

/-- A user of the directory. -/
structure User where
  uid : String
  resolver : String
  realm : String
  username : String
  givenName : String := ""
  surname : String := ""
  /-- Further attributes such as a phone number. -/
  attributes : SortedMap String := .empty

namespace User

/-- The value of an attribute. The attributes that every user has come before further ones. -/
def info? (user : User) : String → Option String
  | "username" => some user.username
  | "givenname" => some user.givenName
  | "surname" => some user.surname
  | "userid" | "uid" => some user.uid
  | name => user.attributes.get? name

/-- The name and the realm of the user. -/
def login (user : User) : String :=
  user.username ++ "@" ++ user.realm

/-- Whether the user is the one that an owner names. -/
def isNamedBy (user : User) (owner : Owner) : Bool :=
  user.uid == owner.userId && user.resolver == owner.resolver && user.realm == owner.realm

/-- The first user that an owner names. -/
def resolve? (users : List User) (owner : Owner) : Option User :=
  users.find? fun user => user.isNamedBy owner

end User

end TokenInventory
