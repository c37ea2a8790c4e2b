import TokenInventory.Json.Record
import TokenInventory.Token.Basic

/-!
# Records of tokens and users

How owners, users and tokens are laid out in JSON.
-/

namespace TokenInventory

namespace Value

/-- The value in JSON. -/
def toJson : Value → Json
  | flag b => .bool b
  | number n => .ofInt64 n
  | text s => .str s

/-- Reads a truth value, a number or a text. -/
def ofJson? : Json → Option Value
  | .bool b => some (flag b)
  | .int n => (Text.int64? n).map number
  | .str s => some (text s)
  | _ => none

end Value

namespace Owner

/-- The owner in JSON. -/
def toJson (owner : Owner) : Json :=
  .obj [("user_id", .str owner.userId), ("resolver", .str owner.resolver),
    ("realm", .str owner.realm)]

/-- Reads an owner. -/
def ofJson? (json : Json) : Option Owner := do
  let [userId, resolver, realm] ← json.fields? ["user_id", "resolver", "realm"] | none
  let userId ← Json.required Json.text? userId
  let resolver ← Json.required Json.text? resolver
  let realm ← Json.required Json.text? realm
  return { userId, resolver, realm }

end Owner

namespace User

/-- The user in JSON. -/
def toJson (user : User) : Json :=
  .obj [("uid", .str user.uid), ("resolver", .str user.resolver), ("realm", .str user.realm),
    ("username", .str user.username), ("givenname", .str user.givenName),
    ("surname", .str user.surname), ("attributes", .ofTextMap user.attributes)]

/-- The fields of a user in their order. -/
def fieldNames : List String :=
  ["uid", "resolver", "realm", "username", "givenname", "surname", "attributes"]

/-- Reads a user. -/
def ofJson? (json : Json) : Option User := do
  let [uid, resolver, realm, username, givenName, surname, attributes] ← json.fields? fieldNames
    | none
  let uid ← Json.required Json.text? uid
  let resolver ← Json.required Json.text? resolver
  let realm ← Json.required Json.text? realm
  let username ← Json.required Json.text? username
  let givenName ← Json.withDefault "" Json.text? givenName
  let surname ← Json.withDefault "" Json.text? surname
  let attributes ← Json.withDefault .empty Json.textMap? attributes
  return { uid, resolver, realm, username, givenName, surname, attributes }

end User

namespace Token

/-- The token in JSON. -/
def toJson (token : Token) : Json :=
  .obj [("serial", .str token.serial), ("tokentype", .str token.tokenType),
    ("description", .str token.description), ("active", .bool token.active),
    ("revoked", .bool token.revoked), ("locked", .bool token.locked),
    ("otplen", .ofInt64 token.passwordLength), ("count", .ofInt64 token.counter),
    ("maxfail", .ofInt64 token.maxFailures), ("failcount", .ofInt64 token.failures),
    ("otpkey", .str token.seed), ("rollout_state", .str token.rolloutState),
    ("owner", .ofOption Owner.toJson token.owner), ("realms", .ofTexts token.realms),
    ("tokeninfo", .ofTextMap token.info)]

/-- The fields of a token in their order. -/
def fieldNames : List String :=
  ["serial", "tokentype", "description", "active", "revoked", "locked", "otplen", "count",
    "maxfail", "failcount", "otpkey", "rollout_state", "owner", "realms", "tokeninfo"]

/-- Reads a token. -/
def ofJson? (json : Json) : Option Token := do
  let [serial, tokenType, description, active, revoked, locked, passwordLength, counter,
      maxFailures, failures, seed, rolloutState, owner, realms, info] ← json.fields? fieldNames
    | none
  let serial ← Json.required Json.text? serial
  let tokenType ← Json.required Json.text? tokenType
  let description ← Json.withDefault "" Json.text? description
  let active ← Json.withDefault true Json.flag? active
  let revoked ← Json.withDefault false Json.flag? revoked
  let locked ← Json.withDefault false Json.flag? locked
  let passwordLength ← Json.withDefault 6 Json.int64? passwordLength
  let counter ← Json.withDefault 0 Json.int64? counter
  let maxFailures ← Json.withDefault 10 Json.int64? maxFailures
  let failures ← Json.withDefault 0 Json.int64? failures
  let seed ← Json.withDefault "" Json.text? seed
  let rolloutState ← Json.withDefault "" Json.text? rolloutState
  let owner ← Json.withDefault none (Json.nullable? Owner.ofJson?) owner
  let realms ← Json.withDefault [] (Json.list? Json.text?) realms
  let info ← Json.withDefault .empty Json.textMap? info
  return { serial, tokenType, description, active, revoked, locked, passwordLength, counter,
           maxFailures, failures, seed, rolloutState, owner, realms, info }

end Token

end TokenInventory
