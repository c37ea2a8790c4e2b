import TokenInventory.Json.Basic

/-!
# Records in JSON

How a record is laid out in JSON: as an object that names its fields, or as an array of the values
in the order in which the fields are declared. In an object a field may be named once, and what is
not a field is ignored. Either layout may leave out a field that has a value of its own to fall back
on; an array can leave out only the last ones.
-/

namespace TokenInventory.Json

/-- The text that a value is. -/
def text? : Json → Option String
  | str s => some s
  | _ => none

/-- The truth value that a value is. -/
def flag? : Json → Option Bool
  | bool b => some b
  | _ => none

/-- The signed 64-bit number that a value is. -/
def int64? : Json → Option Int64
  | int n => Text.int64? n
  | _ => none

/-- The unsigned 64-bit number that a value is. -/
def word? : Json → Option Nat
  | int n => if 0 ≤ n ∧ n < 0x10000000000000000 then some n.toNat else none
  | _ => none

/-- The items of an array, each read in the same way. -/
def list? {α : Type} (read : Json → Option α) : Json → Option (List α)
  | arr items => items.mapM read
  | _ => none

/-- The members of an object of texts; of several with one key the last counts. -/
def textMap? : Json → Option (SortedMap String)
  | obj members =>
    (members.mapM fun m => (text? m.2).map fun s => (m.1, s)).map SortedMap.ofList
  | _ => none

/-- A value that may be `null`. -/
def nullable? {α : Type} (read : Json → Option α) : Json → Option (Option α)
  | null => some none
  | value => (read value).map some

/-- The value of the only member with a key; `none` within if there is no such member, and `none` if
there are several. -/
def member? (key : String) (members : List (String × Json)) : Option (Option Json) :=
  match members.filter fun m => m.1 == key with
  | [] => some none
  | [m] => some (some m.2)
  | _ => none

/-- The values of the fields of a record, each `none` if it is left out. -/
def fields? (names : List String) : Json → Option (List (Option Json))
  | obj members => names.mapM fun name => member? name members
  | arr items =>
    if items.length ≤ names.length then
      some (items.map some ++ List.replicate (names.length - items.length) none)
    else none
  | _ => none

/-- A field that may not be left out. -/
def required {α : Type} (read : Json → Option α) (field : Option Json) : Option α :=
  field.bind read

/-- A field with a value to fall back on. -/
def withDefault {α : Type} (default : α) (read : Json → Option α) : Option Json → Option α
  | none => some default
  | some value => read value

end TokenInventory.Json
