import TokenInventory.Bytes.Base64
import TokenInventory.Cipher.Sha256
import TokenInventory.Exchange.Row
import TokenInventory.KeyContainer.Element
import TokenInventory.KeyContainer.Escape
import TokenInventory.KeyContainer.Writer

/-!
# Reading key containers

Each key package of a container is read by itself, from its elements and attributes. Sealed seeds
are checked against their signatures as a policy says: not at all, leaving out the packages that
fail, or refusing the container if one of them fails.
-/

namespace TokenInventory.KeyContainer

/-- How signatures are checked. -/
inductive MacPolicy
  /-- Signatures do not matter. -/
  | ignore
  /-- A package whose signature fails is left out. -/
  | leaveOut
  /-- A package whose signature fails makes the container be refused. -/
  | refuse
  deriving DecidableEq, Repr

namespace MacPolicy

/-- The name of a policy. -/
def name : MacPolicy → String
  | ignore => "no_check"
  | leaveOut => "check_fail_soft"
  | refuse => "check_fail_hard"

/-- The policy with a name, or the message that there is none. -/
def ofName (s : String) : Except String MacPolicy :=
  match s with
  | "no_check" => .ok ignore
  | "check_fail_soft" => .ok leaveOut
  | "check_fail_hard" => .ok refuse
  | other =>
    .error ("unknown MAC policy '" ++ other ++
      "', expected no_check, check_fail_soft or check_fail_hard")

end MacPolicy

/-- The keys with which a container is read. -/
structure Keys where
  /-- The key of the container, if it was given. -/
  key : Option Key
  /-- The key that signs, if it could be opened. -/
  macKey : Option (List UInt8)

/-- Reads bytes in base 64, blanks at the ends aside. -/
def bytes? (s : List Char) : Option (List UInt8) :=
  Base64.decode (Text.trim s)

/-- The keys of a container: the given key opens the one that signs. -/
def Keys.ofContainer (key : Option Key) (container : List Char) : Keys where
  key := key
  macKey := do
    let key ← key
    let block ← element? "MACKey" container
    let sealed ← (element? "CipherValue" block).bind bytes?
    openSealed key sealed

/-- A token as a key package describes it. -/
structure PackagedToken where
  serial : String
  type : PasswordType
  /-- The seed in hexadecimal digits. -/
  seed : String
  passwordLength : Int64
  counter : Int64
  timeStep : Option String
  description : String
  deriving DecidableEq

/-- The info entry that tells where a token came from. -/
def originKey : String :=
  "import_file"

/-- The new token that a package describes. -/
def PackagedToken.toToken (p : PackagedToken) : Token :=
  let info := SortedMap.empty.insert originKey "pskc"
  { serial := p.serial
    tokenType := p.type.name
    description := p.description
    passwordLength := p.passwordLength
    counter := p.counter
    seed := p.seed
    info :=
      match p.timeStep with
      | none => info
      | some timeStep => info.insert Token.timeStepKey timeStep }

/-- The bytes of a sealed seed, once its signature has been checked. -/
def checkedCipher (keys : Keys) (policy : MacPolicy) (label : String) (secret : List Char)
    (encrypted : List Char) : Except ExchangeError (List UInt8) :=
  match (element? "CipherValue" encrypted).bind bytes? with
  | none => .error (.malformed (.inPackage label "unreadable cipher value"))
  | some sealed =>
    let isSigned :=
      match keys.macKey, (element? "ValueMAC" secret).bind bytes? with
      | some macKey, some mac => Sha256.hmac macKey sealed == mac
      | _, _ => false
    if policy ≠ .ignore ∧ !isSigned then .error (.macMismatch label) else .ok sealed

/-- The seed of a package, from its secret. -/
def seedOf (keys : Keys) (policy : MacPolicy) (label : String) (secret : List Char) :
    Except ExchangeError (List UInt8) :=
  match element? "EncryptedValue" secret with
  | some encrypted => do
    let sealed ← checkedCipher keys policy label secret encrypted
    match keys.key with
    | none => .error .keyRequired
    | some key =>
      match openSealed key sealed with
      | none => .error (.malformed (.inPackage label "cannot decrypt secret"))
      | some seed => return seed
  | none =>
    match (element? "PlainValue" secret).bind bytes? with
    | none => .error (.malformed (.inPackage label "no secret value"))
    | some seed => return seed

/-- The type that the algorithm of a package names. -/
def typeOf (label : String) (package : List Char) : Except ExchangeError PasswordType :=
  match attribute? "Key".toList "Algorithm".toList package with
  | none => .error (.malformed (.inPackage label "no algorithm"))
  | some algorithm =>
    match (Text.stripPrefix? algorithmPrefix.toList (unescape algorithm)).bind fun name =>
        PasswordType.ofName? (String.ofList name) with
    | none => .error (.malformed (.inPackage label "unsupported algorithm"))
    | some type => .ok type

/-- The label of a package: its serial, or the identifier of its key, or its place. -/
def labelOf (position : Nat) (package : List Char) : String :=
  let label :=
    ((element? "SerialNo" package) <|> attribute? "Key".toList "Id".toList package).map unescape
  match label with
  | some label => String.ofList label
  | none => "KeyPackage #" ++ Text.ofNat (position + 1)

/-- The token that a package describes. -/
def readPackage (keys : Keys) (policy : MacPolicy) (label : String) (package : List Char) :
    Except ExchangeError PackagedToken := do
  let type ← typeOf label package
  let secret ←
    match element? "Secret" package with
    | none => .error (.malformed (.inPackage label "no secret"))
    | some secret => .ok secret
  let seed ← seedOf keys policy label secret
  let plainValue (name : String) := (element? name package).bind (element? "PlainValue")
  return {
    serial := label
    type
    seed := String.ofList (Hex.encode seed)
    passwordLength :=
      ((attribute? "ResponseFormat".toList "Length".toList package).bind fun s =>
        Text.readInt64 (unescape s)).getD 6
    counter := ((plainValue "Counter").bind fun s => Text.readInt64 (Text.trim s)).getD 0
    timeStep := (plainValue "TimeInterval").map fun s => String.ofList (Text.trim s)
    description := String.ofList (((element? "FriendlyName" package).map unescape).getD []) }

/-- A package of a container, by its label: the token it describes or why there is none. -/
abbrev PackageResult : Type :=
  String × Except ExchangeError PackagedToken

/-- What was read from a container. -/
structure Import where
  tokens : List PackagedToken
  /-- The labels of the packages that were left out. -/
  notParsed : List String

/-- Reads every package of a container. -/
def readPackages (keys : Keys) (policy : MacPolicy) (container : List Char) : List PackageResult :=
  (elements "KeyPackage".toList container).zipIdx.map fun (package, position) =>
    let label := labelOf position package
    (label, readPackage keys policy label package)

/-- The serial of a package whose signature fails. -/
def mismatch? : PackageResult → Option String
  | (_, .error (.macMismatch serial)) => some serial
  | _ => none

/-- The results before the one that makes a container be refused; all of them if none does. -/
def settledResults (policy : MacPolicy) (results : List PackageResult) : List PackageResult :=
  if policy = .refuse then results.takeWhile fun r => (mismatch? r).isNone else results

/-- The packages that are left out, each with the reason. -/
def leftOut (results : List PackageResult) : List (String × ExchangeError) :=
  results.filterMap fun
    | (label, .error e) => some (label, e)
    | (_, .ok _) => none

/-- The tokens that were read and the labels of the packages that were left out. -/
def Import.ofResults (results : List PackageResult) : Import where
  tokens := results.filterMap fun r => r.2.toOption
  notParsed := (leftOut results).map fun r => r.1

/-- The import of the packages of a container. -/
def importOf (policy : MacPolicy) (results : List PackageResult) : Except ExchangeError Import :=
  match policy, results.findSome? mismatch? with
  | .refuse, some serial => .error (.macMismatch serial)
  | _, _ => .ok (.ofResults results)

/-- The packages of a container, read with the key that a text gives. -/
def resultsOf (container : List Char) (key : Option String) (policy : MacPolicy) :
    Except ExchangeError (List PackageResult) := do
  let key ← key.mapM fun text =>
    match Key.ofHex text.toList with
    | .ok key => .ok key
    | .error reason => .error (ExchangeError.invalidKey reason)
  match readPackages (Keys.ofContainer key container) policy container with
  | [] => .error (.malformed .noKeyPackage)
  | results => return results

/-- Reads a container. -/
def read (container : List Char) (key : Option String) (policy : MacPolicy) :
    Except ExchangeError Import := do
  importOf policy (← resultsOf container key policy)

end TokenInventory.KeyContainer
