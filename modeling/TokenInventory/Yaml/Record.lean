import TokenInventory.SortedMap
import TokenInventory.Yaml.Node

/-!
# Records in YAML

How the values of a record are read from nodes. Any scalar is a text, just as it is written. A truth
value or a number has to be plain, or a literal block with the tag of its type. Where a list or a
map is expected there may be nothing at all. In a record a field may be named once, and what is not
a field is ignored.
-/

namespace TokenInventory.Yaml.Node

/-- The tag of a type that every document knows. -/
def standardTag (name : String) : List Char :=
  ("tag:yaml.org,2002:" ++ name).toList

/-- The text that a scalar is written as. -/
def text? : Node → Option String
  | scalar _ _ text => some text
  | _ => none

/-- The text of a scalar that may stand for something else: a plain one, or a literal block with the
tag of a type. -/
def symbol? (typeName : String) : Node → Option String
  | scalar .plain _ text => some text
  | scalar .literal (some tag) text => if tag = standardTag typeName then some text else none
  | _ => none

/-- The truth value that a node is. -/
def flag? (node : Node) : Option Bool :=
  (node.symbol? "bool").bind Yaml.flag?

/-- The signed 64-bit number that a node is. -/
def int64? (node : Node) : Option Int64 :=
  (node.symbol? "int").bind Yaml.int64?

/-- The items of a list. -/
def items? (node : Node) : Option (List Node) :=
  match node with
  | sequence items => some items
  | _ => if node.isBlank then some [] else none

/-- The items of a list, each read in the same way. -/
def list? {α : Type} (read : Node → Option α) (node : Node) : Option (List α) :=
  node.items?.bind fun items => items.mapM read

/-- The entries of a map whose keys are texts. -/
def members? (node : Node) : Option (List (String × Node)) :=
  match node with
  | mapping entries => entries.mapM fun e => (text? e.1).map (·, e.2)
  | _ => if node.isBlank then some [] else none

/-- The entries of a map of texts; of several with one key the last counts. -/
def textMap? (node : Node) : Option (SortedMap String) := do
  let members ← node.members?
  let entries ← members.mapM fun m => (text? m.2).map (m.1, ·)
  return .ofList entries

/-- The value of the only member with a key; `none` within if there is no such member, and `none` if
there are several. -/
def member? (key : String) (members : List (String × Node)) : Option (Option Node) :=
  match members.filter fun m => m.1 == key with
  | [] => some none
  | [m] => some (some m.2)
  | _ => none

/-- The values of the fields of a record, each `none` if it is left out. -/
def fields? (names : List String) (node : Node) : Option (List (Option Node)) := do
  let members ← node.members?
  names.mapM fun name => member? name members

/-- A field that may not be left out. -/
def required {α : Type} (read : Node → Option α) (field : Option Node) : Option α :=
  field.bind read

/-- A field with a value to fall back on. -/
def withDefault {α : Type} (default : α) (read : Node → Option α) : Option Node → Option α
  | none => some default
  | some node => read node

end TokenInventory.Yaml.Node
