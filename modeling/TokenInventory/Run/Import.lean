import TokenInventory.Exchange.Document
import TokenInventory.KeyContainer.Reader
import TokenInventory.Run.Transcript
import TokenInventory.Store.Basic

/-!
# Imports

Tokens of the store are updated from a document of entries, or tokens are added to it from a key
container. The failure for one token is noted and does not stop the import. A file that cannot be
read does, before the store is touched, and so does a broken channel, at the token whose line cannot
be written.
-/

namespace TokenInventory

/-- Why nothing could be imported. -/
inductive ImportError
  | unreadable (path : String) (reason : FileError)
  | content (reason : ExchangeError)
  /-- The channel of the results is broken. -/
  | brokenChannel
  deriving DecidableEq, Repr

/-- The wording of an error. -/
def ImportError.message : ImportError → String
  | unreadable path reason => "Failed to read " ++ path ++ ": " ++ reason.message
  | content reason => reason.message
  | brokenChannel => "broken channel"

/-- A file to import: its path and what reading it gives. -/
structure ImportFile where
  path : String
  content : Except FileError String

/-- The text of a file. -/
def ImportFile.text (file : ImportFile) : Except ImportError String :=
  match file.content with
  | .ok text => .ok text
  | .error reason => .error (.unreadable file.path reason)

/-- What an import has done. -/
structure ImportSummary where
  imported : Nat := 0
  failed : List String := []
  notParsed : List String := []
  deriving DecidableEq, Repr

/-- How far an import has come. -/
structure ImportProgress where
  store : Store
  transcript : Transcript := {}
  summary : ImportSummary := {}

namespace ImportProgress

/-- Whether nothing more can be written. -/
def isBroken (p : ImportProgress) : Bool :=
  p.transcript.isBroken

/-- Writes something. -/
def write (p : ImportProgress) (outputs : List Output) : ImportProgress :=
  { p with transcript := p.transcript.writeAll outputs }

/-- Counts a token. -/
def succeed (p : ImportProgress) : ImportProgress :=
  { p with summary := { p.summary with imported := p.summary.imported + 1 } }

/-- Notes that the token with a serial failed. -/
def fail (p : ImportProgress) (serial complaint : String) : ImportProgress :=
  { p with summary := { p.summary with failed := p.summary.failed ++ [serial] } }.write
    [Output.noteLine complaint]

/-- Saves a token. -/
def save (p : ImportProgress) (token : Token) : Except StoreError Unit × ImportProgress :=
  let (result, store) := p.store.save token
  (result, { p with store })

end ImportProgress

/-! ## Updating tokens -/

/-- Applies an entry to the token that it is about. -/
def applyEntry (p : ImportProgress) (entry : Entry) (token : Token) : ImportProgress :=
  let serial := entry.serial
  let complaint (reason : String) := "Failed to update token " ++ serial ++ ": " ++ reason
  match entry.applyTo token with
  | .error e => p.fail serial (complaint e.message)
  | .ok token =>
    match p.save token with
    | (.ok (), p) => p.succeed
    | (.error e, p) => p.fail serial (complaint e.message)

/-- Updates the token that an entry is about, if that can be told in the results. -/
def updateToken (p : ImportProgress) (entry : Entry) : ImportProgress :=
  if p.isBroken then p
  else
    let serial := entry.serial
    match p.store.get? serial with
    | none => p.fail serial ("Can not find token " ++ serial ++ ". Not updating.")
    | some token =>
      let p := p.write (Output.resultLine ("Updating token " ++ serial ++ "."))
      if p.isBroken then p else applyEntry p entry token

/-- The event of the end of an update. -/
def updateEvent (summary : ImportSummary) : Log.Event where
  level := .info
  origin := .command
  message := "tokens updated"
  fields := [("updated", .number summary.imported), ("failed", .number summary.failed.length)]

/-- Updates tokens from the entries of a file. -/
def updateTokens (file : ImportFile) (p : ImportProgress) :
    Except ImportError ImportSummary × ImportProgress :=
  let p := p.write [Output.noteLine "Loading YAML data. This may take a while."]
  match file.text with
  | .error e => (.error e, p)
  | .ok text =>
    match Entry.readAll text with
    | .error e => (.error (.content e), p)
    | .ok entries =>
      let p := entries.foldl updateToken p
      if p.isBroken then (.error .brokenChannel, p)
      else (.ok p.summary, p.write [.event (updateEvent p.summary)])

/-! ## Adding tokens -/

/-- Saves a token unless there is one with its serial. -/
def saveNew (p : ImportProgress) (token : Token) : ImportProgress :=
  let serial := token.serial
  let complaint (e : StoreError) := "--- Failed to import token. " ++ e.message
  match p.store.get? serial with
  | some _ => p.fail serial (complaint (.tokenExists serial))
  | none =>
    match p.save token with
    | (.ok (), p) => p.succeed
    | (.error e, p) => p.fail serial (complaint e)

/-- Adds a token with a new serial, if that can be told in the results. -/
def addToken (p : ImportProgress) (packaged : KeyContainer.PackagedToken) : ImportProgress :=
  if p.isBroken then p
  else
    let token := packaged.toToken
    let p := p.write (Output.resultLine ("Importing token " ++ token.serial))
    if p.isBroken then p else saveNew p token

/-- The event of a package that was left out. -/
def leftOutEvent (label : String) (reason : ExchangeError) : Log.Event where
  level := .warning
  origin := .container
  message := "key package not parsed"
  fields := [("serial", .text label), ("error", .text reason.message)]

/-- The event of the end of an import. -/
def importEvent (summary : ImportSummary) : Log.Event where
  level := .info
  origin := .command
  message := "pskc import finished"
  fields :=
    [("imported", .number summary.imported), ("failed", .number summary.failed.length),
      ("not_parsed", .number summary.notParsed.length)]

/-- What is written after an import. -/
def importOutputs (summary : ImportSummary) : List Output :=
  let leftOut :=
    if summary.notParsed = [] then []
    else
      [Output.noteLine ("The following tokens were not read from the PSKC file because they " ++
        "could not be validated: " ++ Text.joinWith ", " summary.notParsed)]
  leftOut ++
    [Output.noteLine ("Successfully imported " ++ Text.ofNat summary.imported ++ " tokens."),
      Output.noteLine ("Failed to import " ++ Text.ofNat summary.failed.length ++ " tokens: " ++
        Text.joinWith ", " summary.failed),
      .event (importEvent summary)]

/-- Adds the tokens of the key container in a file. A package that is refused makes the whole
container be refused, but the packages before it that were left out have been noted by then. -/
def loadTokens (file : ImportFile) (key : Option String) (policy : KeyContainer.MacPolicy)
    (p : ImportProgress) : Except ImportError ImportSummary × ImportProgress :=
  match file.text with
  | .error e => (.error e, p)
  | .ok text =>
    match KeyContainer.resultsOf text.toList key policy with
    | .error e => (.error (.content e), p)
    | .ok results =>
      let leftOut := KeyContainer.leftOut (KeyContainer.settledResults policy results)
      let p := p.write (leftOut.map fun (label, reason) => .event (leftOutEvent label reason))
      match KeyContainer.importOf policy results with
      | .error e => (.error (.content e), p)
      | .ok content =>
        let p := { p with summary := { notParsed := content.notParsed } }
        let p := content.tokens.foldl addToken p
        if p.isBroken then (.error .brokenChannel, p)
        else (.ok p.summary, p.write (importOutputs p.summary))

end TokenInventory
