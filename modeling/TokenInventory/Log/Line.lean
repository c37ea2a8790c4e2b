import TokenInventory.Json.Basic
import TokenInventory.Log.Event
import TokenInventory.Text.Basic

/-!
# Lines of events

An event is shown as a line, either of text or of JSON. Where the time of an event is given, it
comes first.
-/

namespace TokenInventory.Log

/-- How events are shown. -/
inductive LineFormat
  | text
  | json
  deriving DecidableEq, Repr

namespace LineFormat

/-- The name of a format. -/
def name : LineFormat → String
  | text => "text"
  | json => "json"

/-- The format with exactly this name. -/
def ofName? : String → Option LineFormat
  | "text" => some text
  | "json" => some json
  | _ => none

/-- The format with a name, whatever the case of its letters. -/
def ofText (s : String) : Except String LineFormat :=
  match ofName? (Text.lowered s) with
  | some format => .ok format
  | none => .error ("unknown log format '" ++ Text.lowered s ++ "', expected text or json")

end LineFormat

namespace FieldValue

/-- The value in JSON. -/
def toJson : FieldValue → Json
  | number n => .ofNat n
  | text s => .str s

end FieldValue

namespace Event

/-- The event as a text: its level, its message and its values. -/
def shown (e : Event) : String :=
  Text.joinWith " "
    (e.level.name :: e.message :: e.fields.map fun (name, value) => name ++ "=" ++ value.shown)

/-- The message and the values of the event in JSON. -/
def fieldsJson (e : Event) : Json :=
  .obj (("message", .str e.message) :: e.fields.map fun (name, value) => (name, value.toJson))

/-- The event in JSON, with the time if it is given. -/
def toJson (time : Option String) (e : Event) : Json :=
  .obj ((time.toList.map fun t => ("timestamp", .str t)) ++
    [("level", .str e.level.name), ("fields", e.fieldsJson)])

end Event

end TokenInventory.Log
