import TokenInventory.Bytes.Hex
import TokenInventory.Cipher.Entropy
import TokenInventory.Cipher.Gcm
import TokenInventory.Text.Blank

/-!
# Sealed values

A value is sealed under a 128-bit key: a random nonce of twelve bytes, the encrypted value and its
tag, in this order. `openSealed` gives the value back under the same key.
-/

namespace TokenInventory

/-- A 128-bit key. -/
abbrev Key : Type :=
  Aes.Block

/-- Why a text is no key. -/
inductive KeyError
  /-- The text is not hexadecimal. -/
  | notHex (reason : Hex.Error)
  /-- The text has another number of bytes than sixteen. -/
  | wrongLength (length : Nat)
  deriving DecidableEq, Repr

namespace KeyError

/-- The wording of an error. -/
def message : KeyError → String
  | notHex reason => reason.message
  | wrongLength length => "expected 16 bytes, got " ++ Text.ofNat length

end KeyError

namespace Key

/-- The key written as thirty-two hexadecimal digits, with blanks around them ignored. -/
def ofHex (s : List Char) : Except KeyError Key :=
  match Hex.decode (Text.trim s) with
  | .error reason => .error (.notHex reason)
  | .ok bytes =>
    if h : bytes.length = 16 then .ok ⟨bytes.toArray, by simpa using h⟩
    else .error (.wrongLength bytes.length)

/-- The key as hexadecimal digits. -/
def toHex (key : Key) : String :=
  String.ofList (Hex.encode key.toList)

end Key

/-- The number of bytes of a nonce. -/
def nonceLength : Nat :=
  12

/-- The number of bytes of a tag. -/
def tagLength : Nat :=
  16

/-- A value sealed with a given nonce. -/
def sealWith (key : Key) (nonce value : List UInt8) : List UInt8 :=
  nonce ++ Gcm.encrypt key nonce value

/-- A value sealed with the next nonce of a random source. -/
def sealValue (key : Key) (value : List UInt8) (entropy : Entropy) : List UInt8 × Entropy :=
  let (nonce, entropy) := entropy.draw nonceLength
  (sealWith key nonce value, entropy)

/-- The value that was sealed under a key; `none` if it was not. -/
def openSealed (key : Key) (sealed : List UInt8) : Option (List UInt8) :=
  if sealed.length < nonceLength + tagLength then none
  else Gcm.decrypt key (sealed.take nonceLength) (sealed.drop nonceLength)

end TokenInventory
