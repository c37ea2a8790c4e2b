import TokenInventory.Exchange.Seed

/-!
# Exported rows

A counter-based or time-based token in one row: the owner, the serial, the seed, the type and the
number of digits, and for a time-based token the time step.
-/

namespace TokenInventory

/-- The owner as exports name it. -/
def exportedOwner (owner : Option User) : String :=
  match owner with
  | none => "n/a"
  | some user => user.login

/-- The type of a token if it can be written in a format. -/
def exportedType (token : Token) (format : String) : Except ExchangeError PasswordType :=
  match PasswordType.ofToken? token with
  | some type => .ok type
  | none => .error (.unsupportedType token.serial token.tokenType format)

/-- The row of a token. -/
def exportedRow (token : Token) (owner : Option User) (inBase32 : Bool) :
    Except ExchangeError String := do
  let type ← exportedType token "csv"
  let seed ← Seed.encode token inBase32
  let fields :=
    [exportedOwner owner, token.serial, seed, type.name, Text.ofInt64 token.passwordLength]
  match type with
  | .counterBased => return Text.joinWith ", " fields
  | .timeBased => return Text.joinWith ", " (fields ++ [token.timeStep])

end TokenInventory
