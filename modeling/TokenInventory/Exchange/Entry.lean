import TokenInventory.Exchange.Row
import TokenInventory.Yaml.Writer

/-!
# Exported entries

An entry describes a token in a list that people can read and edit. Applying an entry to a token
gives the token the state that the entry describes, apart from its owner and from whether it is
revoked or locked. The owner in an entry is for information only.
-/

namespace TokenInventory

/-- The exported description of a token. -/
structure Entry where
  serial : String
  tokenType : String
  description : String := ""
  active : Bool := false
  passwordLength : Int64 := 0
  counter : Int64 := 0
  maxFailures : Int64 := 0
  failures : Int64 := 0
  seed : String := ""
  /-- Whether the seed is written in base 32. -/
  inBase32 : Bool := false
  rolloutState : String := ""
  realms : List String := []
  info : SortedMap String := .empty
  owner : String := ""

namespace Entry

/-- The entry of a token. -/
def ofToken (token : Token) (owner : Option User) (inBase32 : Bool) :
    Except ExchangeError Entry := do
  let seed ← Seed.encode token inBase32
  return {
    serial := token.serial
    tokenType := token.tokenType
    description := token.description
    active := token.active
    passwordLength := token.passwordLength
    counter := token.counter
    maxFailures := token.maxFailures
    failures := token.failures
    seed
    inBase32
    rolloutState := token.rolloutState
    realms := token.realms
    info := token.info
    owner := exportedOwner owner }

/-- The token in the state that an entry describes. -/
def applyTo (entry : Entry) (token : Token) : Except ExchangeError Token :=
  if Text.sameLetters token.tokenType entry.tokenType then do
    let seed ← Seed.decode entry.serial entry.seed entry.inBase32
    return { token with
      seed
      description := entry.description
      active := entry.active
      passwordLength := entry.passwordLength
      counter := entry.counter
      maxFailures := entry.maxFailures
      failures := entry.failures
      rolloutState := entry.rolloutState
      realms := entry.realms
      info := entry.info }
  else .error (.malformed (.otherType token.serial token.tokenType entry.tokenType))

/-- The entry as a record. Base 32 is mentioned only where it is used. -/
def record (entry : Entry) : Yaml.Record :=
  [("serial", .text entry.serial), ("type", .text entry.tokenType),
    ("description", .text entry.description), ("active", .flag entry.active),
    ("otplen", .number entry.passwordLength), ("count", .number entry.counter),
    ("maxfail", .number entry.maxFailures), ("failcount", .number entry.failures),
    ("otpkey", .text entry.seed)] ++
  (if entry.inBase32 then [("otpkey_b32", .flag true)] else []) ++
  [("rollout_state", .text entry.rolloutState), ("realms", .texts entry.realms),
    ("info", .table entry.info.entries), ("owner", .text entry.owner)]

/-- The entry as an item of a list. -/
def write (entry : Entry) : String :=
  Yaml.recordItem entry.record

end Entry

end TokenInventory
