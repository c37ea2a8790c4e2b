import TokenInventory.Cipher.Sealing

/-!
# Errors of export and import

Why a token could not be written for export or read for import.
-/

namespace TokenInventory

/-- Why the content of a file is not what it has to be. -/
inductive ContentError
  | noKeyPackage
  /-- A part of the key package with this label is missing or unreadable. -/
  | inPackage (label what : String)
  /-- A document is about a token of another type. -/
  | otherType (serial tokenType documentType : String)
  deriving DecidableEq, Repr

namespace ContentError

/-- The wording of an error. -/
def message : ContentError → String
  | noKeyPackage => "no KeyPackage found"
  | inPackage label what => label ++ ": " ++ what
  | otherType serial tokenType documentType =>
    "token " ++ serial ++ " is of type " ++ tokenType ++ ", document says " ++ documentType

end ContentError

/-- Why a token could not be written or read. -/
inductive ExchangeError
  /-- The type of the token cannot be written in a format. -/
  | unsupportedType (serial tokenType format : String)
  | invalidSeed (serial : String)
  | invalidKey (reason : KeyError)
  | keyRequired
  | macMismatch (serial : String)
  | malformed (reason : ContentError)
  | yaml
  deriving DecidableEq, Repr

namespace ExchangeError

/-- The wording of an error. -/
def message : ExchangeError → String
  | unsupportedType serial tokenType format =>
    "Token type '" ++ tokenType ++ "' of " ++ serial ++ " is not supported by " ++ format
  | invalidSeed serial => "Token " ++ serial ++ " has an invalid seed"
  | invalidKey reason => "Invalid encryption key: " ++ reason.message
  | keyRequired => "Invalid encryption key: a pre-shared key is required"
  | macMismatch serial => "MAC check failed for token " ++ serial
  | malformed reason => "Malformed key container: " ++ reason.message
  | yaml => "YAML error: not a list of token documents"

/-- Whether the error only means that the token is left out of an export. -/
def isSkip : ExchangeError → Bool
  | unsupportedType _ _ _ => true
  | _ => false

end ExchangeError

end TokenInventory
