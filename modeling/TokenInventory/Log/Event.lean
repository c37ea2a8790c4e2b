import TokenInventory.Text.Decimal

/-!
# Events

What a program tells about its own work. An event has a level, the part of the program it comes
from, a message and named values.
-/

namespace TokenInventory.Log

/-- How important an event is. -/
inductive Level
  | error
  | warning
  | info
  | debug
  | trace
  deriving DecidableEq, Repr

namespace Level

/-- The name of a level. -/
def name : Level → String
  | error => "ERROR"
  | warning => "WARN"
  | info => "INFO"
  | debug => "DEBUG"
  | trace => "TRACE"

/-- The place of a level, the most important first. -/
def rank : Level → Nat
  | error => 1
  | warning => 2
  | info => 3
  | debug => 4
  | trace => 5

end Level

/-- The part of the program that an event comes from. -/
inductive Origin
  | run
  | selection
  | outcome
  | container
  | command
  deriving DecidableEq, Repr

/-- The name by which filters know a part of the program. -/
def Origin.target : Origin → String
  | run => "token_janitor::pipeline"
  | selection => "token_janitor::selection::selector"
  | outcome => "token_janitor::actions::outcome"
  | container => "token_janitor::codec::pskc"
  | command => "token_janitor::cli::commands"

/-- A value that an event mentions. -/
inductive FieldValue
  | number (n : Nat)
  | text (s : String)
  deriving DecidableEq, Repr

/-- The value as it is shown. -/
def FieldValue.shown : FieldValue → String
  | number n => Text.ofNat n
  | text s => s

/-- An event. -/
structure Event where
  level : Level
  origin : Origin
  message : String
  fields : List (String × FieldValue) := []
  deriving DecidableEq, Repr

end TokenInventory.Log
