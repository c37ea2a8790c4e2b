import TokenInventory.Bytes.Base32
import TokenInventory.Exchange.Error
import TokenInventory.Token.Basic

/-!
# Seeds

The seed of a token is kept in hexadecimal digits. For export it may be written in base 32 instead.
Reading an exported seed gives hexadecimal digits with small letters.
-/

namespace TokenInventory.Seed

/-- The bytes of the seed of a token. -/
def bytes (token : Token) : Except ExchangeError (List UInt8) :=
  match Hex.decode token.seed.toList with
  | .ok bytes => .ok bytes
  | .error _ => .error (.invalidSeed token.serial)

/-- The seed of a token as it is exported. Written in digits it is not looked at. -/
def encode (token : Token) (inBase32 : Bool) : Except ExchangeError String :=
  if inBase32 then (bytes token).map fun bytes => String.ofList (Base32.encode bytes)
  else .ok token.seed

/-- The seed that an exported text of the token with a serial stands for. -/
def decode (serial text : String) (inBase32 : Bool) : Except ExchangeError String :=
  if inBase32 then
    match Base32.decode text.toList with
    | some bytes => .ok (String.ofList (Hex.encode bytes))
    | none => .error (.invalidSeed serial)
  else
    match Hex.decode text.toList with
    | .ok _ => .ok (Text.lowered text)
    | .error _ => .error (.invalidSeed serial)

end TokenInventory.Seed
