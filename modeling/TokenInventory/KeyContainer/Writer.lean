import TokenInventory.Bytes.Base64
import TokenInventory.Cipher.Sha256
import TokenInventory.Exchange.Row
import TokenInventory.KeyContainer.Escape

/-!
# Writing key containers

A container starts with a head, holds one key package for each token and ends with a foot, so it can
be written as the tokens come. The seeds are sealed under the container's key, which is not part of
it. A second key, itself sealed under the first, signs the sealed seeds.
-/

namespace TokenInventory.KeyContainer

/-- How the algorithm of a key is named before its type. -/
def algorithmPrefix : String :=
  "urn:ietf:params:xml:ns:keyprov:pskc:"

/-- The namespace of a container. -/
def namespaceName : String :=
  "urn:ietf:params:xml:ns:keyprov:pskc"

/-- How the cipher is named. -/
def cipherName : String :=
  "http://www.w3.org/2009/xmlenc11#aes128-gcm"

/-- How the procedure that signs is named. -/
def macName : String :=
  "http://www.w3.org/2001/04/xmldsig-more#hmac-sha256"

/-- Who issues the keys. -/
def issuer : String :=
  "token-janitor"

/-- A container that is being written. -/
structure Writer where
  key : Key
  /-- The key that signs. -/
  macKey : Key
  /-- The number of packages written. -/
  exported : Nat := 0

namespace Writer

/-- A writer with the given key. -/
def withKey (key : Key) (entropy : Entropy) : Writer × Entropy :=
  let (macKey, entropy) := entropy.drawKey
  ({ key, macKey }, entropy)

/-- A writer with a random key. -/
def random (entropy : Entropy) : Writer × Entropy :=
  let (key, entropy) := entropy.drawKey
  withKey key entropy

end Writer

/-- A random identifier written from sixteen bytes, marked as one of its kind. -/
def identifier (bytes : List UInt8) : String :=
  let marked := bytes.zipIdx.map fun (b, i) =>
    if i = 6 then (b &&& 0x0F) ||| 0x40 else if i = 8 then (b &&& 0x3F) ||| 0x80 else b
  let digits (start count : Nat) := String.ofList (Hex.encode ((marked.drop start).take count))
  Text.joinWith "-" [digits 0 4, digits 4 2, digits 6 2, digits 8 2, digits 10 6]

/-- The head of a container. -/
def headText (id macKey : String) : String :=
  "<?xml version=\"1.0\" encoding=\"UTF-8\"?>\n" ++
  "<KeyContainer Version=\"1.0\" Id=\"" ++ id ++ "\" xmlns=\"" ++ namespaceName ++
    "\" xmlns:ds=\"http://www.w3.org/2000/09/xmldsig#\"" ++
    " xmlns:xenc=\"http://www.w3.org/2001/04/xmlenc#\">\n" ++
  "  <EncryptionKey>\n" ++
  "    <ds:KeyName>Pre-shared-key</ds:KeyName>\n" ++
  "  </EncryptionKey>\n" ++
  "  <MACMethod Algorithm=\"" ++ macName ++ "\">\n" ++
  "    <MACKey>\n" ++
  "      <xenc:EncryptionMethod Algorithm=\"" ++ cipherName ++ "\"/>\n" ++
  "      <xenc:CipherData>\n" ++
  "        <xenc:CipherValue>" ++ macKey ++ "</xenc:CipherValue>\n" ++
  "      </xenc:CipherData>\n" ++
  "    </MACKey>\n" ++
  "  </MACMethod>\n"

/-- The foot of a container. -/
def footText : String :=
  "</KeyContainer>\n"

/-- What a key package says, all texts escaped. -/
structure PackageTexts where
  serial : String
  type : String
  passwordLength : String
  /-- The sealed seed. -/
  cipherValue : String
  /-- The signature of the sealed seed. -/
  valueMac : String
  /-- The line of the counter or of the time step. -/
  movingFactor : String
  /-- The line of the owner, if there is one. -/
  userLine : String
  description : String

/-- The text of a key package. -/
def PackageTexts.text (p : PackageTexts) : String :=
  "  <KeyPackage>\n" ++
  "    <DeviceInfo>\n" ++
  "      <Manufacturer>" ++ issuer ++ "</Manufacturer>\n" ++
  "      <SerialNo>" ++ p.serial ++ "</SerialNo>\n" ++
  "    </DeviceInfo>\n" ++
  "    <Key Id=\"" ++ p.serial ++ "\" Algorithm=\"" ++ algorithmPrefix ++ p.type ++ "\">\n" ++
  "      <Issuer>" ++ issuer ++ "</Issuer>\n" ++
  "      <AlgorithmParameters>\n" ++
  "        <ResponseFormat Length=\"" ++ p.passwordLength ++ "\" Encoding=\"DECIMAL\"/>\n" ++
  "      </AlgorithmParameters>\n" ++
  "      <Data>\n" ++
  "        <Secret>\n" ++
  "          <EncryptedValue>\n" ++
  "            <xenc:EncryptionMethod Algorithm=\"" ++ cipherName ++ "\"/>\n" ++
  "            <xenc:CipherData>\n" ++
  "              <xenc:CipherValue>" ++ p.cipherValue ++ "</xenc:CipherValue>\n" ++
  "            </xenc:CipherData>\n" ++
  "          </EncryptedValue>\n" ++
  "          <ValueMAC>" ++ p.valueMac ++ "</ValueMAC>\n" ++
  "        </Secret>\n" ++
  p.movingFactor ++
  "      </Data>\n" ++
  p.userLine ++
  "      <FriendlyName>" ++ p.description ++ "</FriendlyName>\n" ++
  "    </Key>\n" ++
  "  </KeyPackage>\n"

/-- Bytes as a text of a container. -/
def base64Text (bytes : List UInt8) : String :=
  String.ofList (Base64.encode bytes)

/-- The line with what changes from one password to the next. -/
def movingFactor (token : Token) : PasswordType → String
  | .counterBased =>
    "        <Counter><PlainValue>" ++ Text.ofInt64 token.counter ++ "</PlainValue></Counter>\n"
  | .timeBased =>
    "        <TimeInterval><PlainValue>" ++ escaped token.timeStep ++
      "</PlainValue></TimeInterval>\n"

/-- The line of an owner. -/
def userLine : Option User → String
  | none => ""
  | some user => "      <UserId>" ++ escaped user.login ++ "</UserId>\n"

namespace Writer

/-- The head of the container. -/
def head (writer : Writer) (entropy : Entropy) : String × Entropy :=
  let (sealed, entropy) := sealValue writer.key writer.macKey.toList entropy
  let (bytes, entropy) := entropy.draw 16
  (headText (identifier bytes) (base64Text sealed), entropy)

/-- The key package of a token. -/
def package (writer : Writer) (token : Token) (owner : Option User) (entropy : Entropy) :
    Except ExchangeError (String × Writer × Entropy) := do
  let type ← exportedType token "pskc"
  let seed ← Seed.bytes token
  let (sealed, entropy) := sealValue writer.key seed entropy
  let texts : PackageTexts :=
    { serial := escaped token.serial
      type := type.name
      passwordLength := Text.ofInt64 token.passwordLength
      cipherValue := base64Text sealed
      valueMac := base64Text (Sha256.hmac writer.macKey.toList sealed)
      movingFactor := movingFactor token type
      userLine := userLine owner
      description := escaped token.description }
  return (texts.text, { writer with exported := writer.exported + 1 }, entropy)

/-- The lines shown after a container is written: the number of packages and the key. -/
def banner (writer : Writer) : String :=
  "\n" ++ Text.ofNat writer.exported ++ " tokens exported.\n\n" ++
  "This is the AES encryption key of the token seeds.\n" ++
  "You need this key to import the tokens again:\n\n\t" ++ writer.key.toHex ++ "\n\n"

end Writer

end TokenInventory.KeyContainer
