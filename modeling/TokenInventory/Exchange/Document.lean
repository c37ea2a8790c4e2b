import TokenInventory.Exchange.Entry
import TokenInventory.Yaml.Record

/-!
# Documents of entries

A document is a list of entries in YAML. A document without anything but blanks has no entries. Of
an entry only the serial and the type are required.
-/

namespace TokenInventory.Entry

/-- The fields of an entry. -/
def fieldNames : List String :=
  ["serial", "type", "description", "active", "otplen", "count", "maxfail", "failcount", "otpkey",
    "otpkey_b32", "rollout_state", "realms", "info", "owner"]

/-- Reads an entry. -/
def ofNode? (node : Yaml.Node) : Option Entry := do
  let [serial, tokenType, description, active, passwordLength, counter, maxFailures, failures, seed,
      inBase32, rolloutState, realms, info, owner] ← node.fields? fieldNames
    | none
  let serial ← Yaml.Node.required Yaml.Node.text? serial
  let tokenType ← Yaml.Node.required Yaml.Node.text? tokenType
  let description ← Yaml.Node.withDefault "" Yaml.Node.text? description
  let active ← Yaml.Node.withDefault false Yaml.Node.flag? active
  let passwordLength ← Yaml.Node.withDefault 0 Yaml.Node.int64? passwordLength
  let counter ← Yaml.Node.withDefault 0 Yaml.Node.int64? counter
  let maxFailures ← Yaml.Node.withDefault 0 Yaml.Node.int64? maxFailures
  let failures ← Yaml.Node.withDefault 0 Yaml.Node.int64? failures
  let seed ← Yaml.Node.withDefault "" Yaml.Node.text? seed
  let inBase32 ← Yaml.Node.withDefault false Yaml.Node.flag? inBase32
  let rolloutState ← Yaml.Node.withDefault "" Yaml.Node.text? rolloutState
  let realms ← Yaml.Node.withDefault [] (Yaml.Node.list? Yaml.Node.text?) realms
  let info ← Yaml.Node.withDefault .empty Yaml.Node.textMap? info
  let owner ← Yaml.Node.withDefault "" Yaml.Node.text? owner
  return { serial, tokenType, description, active, passwordLength, counter, maxFailures, failures,
           seed, inBase32, rolloutState, realms, info, owner }

/-- Reads the entries of a document. -/
def readAll (text : String) : Except ExchangeError (List Entry) :=
  if Text.trim text.toList = [] then .ok []
  else
    match (Yaml.tree? text.toList).bind (Yaml.Node.list? ofNode?) with
    | some entries => .ok entries
    | none => .error .yaml

end TokenInventory.Entry
