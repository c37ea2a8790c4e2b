import TokenInventory.SortedMap
import TokenInventory.Text.Decimal

/-!
# JSON values

The values of the JSON data format. A number is kept as a whole number when it is written as one and
fits a signed or unsigned 64-bit word; any other number is kept as it is written. A text may name a
half of a surrogate pair that has no other half; such a text is no sequence of characters and is
kept as `unpaired`.
-/

namespace TokenInventory

/-- A JSON value. -/
inductive Json
  | null
  | bool (b : Bool)
  | int (n : Int)
  /-- A number with a fraction or an exponent, a negative zero, or a number beyond 64 bits. -/
  | number (written : String)
  | str (s : String)
  /-- A text with half of a surrogate pair in it. -/
  | unpaired
  | arr (items : List Json)
  | obj (members : List (String × Json))

namespace Json

/-- Whether a whole number fits a signed or an unsigned 64-bit word. -/
def FitsWord (n : Int) : Prop :=
  -0x8000000000000000 ≤ n ∧ n < 0x10000000000000000

instance (n : Int) : Decidable (FitsWord n) :=
  inferInstanceAs (Decidable (_ ∧ _))

/-- A 64-bit number as a value. -/
def ofInt64 (x : Int64) : Json :=
  int x.toInt

/-- A natural number as a value. -/
def ofNat (n : Nat) : Json :=
  int n

/-- A list of texts as a value. -/
def ofTexts (texts : List String) : Json :=
  arr (texts.map str)

/-- A map of texts as a value, its keys in ascending order. -/
def ofTextMap (map : SortedMap String) : Json :=
  obj (map.entries.map fun (key, value) => (key, str value))

/-- An optional value, `null` when absent. -/
def ofOption {α : Type} (f : α → Json) : Option α → Json
  | none => null
  | some a => f a

end Json

end TokenInventory
