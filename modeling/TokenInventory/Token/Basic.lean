import TokenInventory.Token.User
import TokenInventory.Token.Value

/-!
# Tokens

A token is a device or a program that makes one-time passwords. It has a serial, a type, a seed in
hexadecimal digits, settings and counters; it may belong to an owner, lies in realms and carries
further entries, its info.
-/

namespace TokenInventory

/-- A token. -/
structure Token where
  serial : String
  tokenType : String
  description : String := ""
  active : Bool := true
  revoked : Bool := false
  locked : Bool := false
  /-- The number of digits of a password. -/
  passwordLength : Int64 := 6
  counter : Int64 := 0
  maxFailures : Int64 := 10
  failures : Int64 := 0
  seed : String := ""
  rolloutState : String := ""
  owner : Option Owner := none
  realms : List String := []
  info : SortedMap String := .empty

namespace Token

/-- The info entry with the time of the last authentication. -/
def lastAuthenticationKey : String :=
  "last_auth"

/-- The info entry with the seconds that a password of a time-based token counts. -/
def timeStepKey : String :=
  "timeStep"

/-- The seconds that a password counts if the token does not say. -/
def defaultTimeStep : String :=
  "30"

/-- Whether the token has an owner. -/
def isAssigned (token : Token) : Bool :=
  token.owner.isSome

/-- Whether the token has an owner who is not among the users. -/
def isOrphaned (users : List User) (token : Token) : Bool :=
  match token.owner with
  | none => false
  | some owner => (User.resolve? users owner).isNone

/-- The text of the last authentication. -/
def lastAuthentication? (token : Token) : Option String :=
  token.info.get? lastAuthenticationKey

/-- The time step of the token. -/
def timeStep (token : Token) : String :=
  (token.info.get? timeStepKey).getD defaultTimeStep

/-- The value in a column. Columns of the owner have none if there is no owner. -/
def column? (token : Token) : String → Option Value
  | "serial" => some (.text token.serial)
  | "tokentype" => some (.text token.tokenType)
  | "description" => some (.text token.description)
  | "active" => some (.flag token.active)
  | "revoked" => some (.flag token.revoked)
  | "locked" => some (.flag token.locked)
  | "otplen" => some (.number token.passwordLength)
  | "count" => some (.number token.counter)
  | "maxfail" => some (.number token.maxFailures)
  | "failcount" => some (.number token.failures)
  | "rollout_state" => some (.text token.rolloutState)
  | "user_id" => token.owner.map fun owner => .text owner.userId
  | "resolver" => token.owner.map fun owner => .text owner.resolver
  | _ => none

/-- The token in the hands of an owner, whose realm it also joins. -/
def assignedTo (owner : Owner) (token : Token) : Token :=
  { token with owner := some owner, realms := token.realms ++ [owner.realm] }

/-- The token with an info entry set. -/
def withInfo (key value : String) (token : Token) : Token :=
  { token with info := token.info.insert key value }

end Token

/-- The type of a token whose passwords follow a standard procedure. -/
inductive PasswordType
  /-- Passwords that depend on a counter. -/
  | counterBased
  /-- Passwords that depend on the time. -/
  | timeBased
  deriving DecidableEq, Repr

namespace PasswordType

/-- The name of a type. -/
def name : PasswordType → String
  | counterBased => "hotp"
  | timeBased => "totp"

/-- The type with a name. -/
def ofName? (s : String) : Option PasswordType :=
  if s = "hotp" then some counterBased else if s = "totp" then some timeBased else none

theorem ofName?_eq_some_iff {s : String} {type : PasswordType} :
    ofName? s = some type ↔ s = type.name := by
  unfold ofName?
  constructor
  · intro h
    split at h
    · next hcounter =>
      cases h
      exact hcounter
    · split at h
      · next htime =>
        cases h
        exact htime
      · cases h
  · rintro rfl
    cases type <;> rfl

/-- The type of a token, whatever the case of the letters. -/
def ofToken? (token : Token) : Option PasswordType :=
  ofName? (Text.lowered token.tokenType)

end PasswordType

end TokenInventory
