import TokenInventory.Text.Blank
import TokenInventory.Text.Decimal

/-!
# Values of token fields

A field of a token holds a truth value, a number or a text. `Value.integer?` is the loose view of a
value as a number, the view that comparisons of numbers use.
-/

namespace TokenInventory

/-- The value of a token field. -/
inductive Value
  | flag (b : Bool)
  | number (n : Int64)
  | text (s : String)
  deriving DecidableEq

namespace Value

/-- The number that a value stands for: a truth value counts as 0 or 1, and a text counts if it is a
number apart from blanks at its ends. -/
def integer? : Value → Option Int64
  | flag b => some (if b then 1 else 0)
  | number n => some n
  | text s => Text.readInt64 (Text.trim s.toList)

/-- The text that a value is. -/
def text? : Value → Option String
  | text s => some s
  | _ => none

/-- The value as it is shown. -/
def shown : Value → String
  | flag b => if b then "true" else "false"
  | number n => Text.ofInt64 n
  | text s => s

end Value

end TokenInventory
