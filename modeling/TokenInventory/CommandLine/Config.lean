import TokenInventory.CommandLine.Error
import TokenInventory.Json.Reader
import TokenInventory.Json.Record
import TokenInventory.Log.Filter
import TokenInventory.Log.Line

/-!
# Settings

A configuration is a file in JSON; everything in it is optional, and nothing else may be in it. What
the command line says comes before what the configuration says.
-/

namespace TokenInventory.CommandLine

/-- The contents of a configuration file. -/
structure Config where
  storePath : Option String := none
  chunkSize : Option Nat := none
  logLevel : Option String := none
  logFormat : Log.LineFormat := .text
  deriving DecidableEq, Repr

namespace Config

/-- The fields of a configuration in their order. -/
def fieldNames : List String :=
  ["store_path", "chunk_size", "log_level", "log_format"]

/-- Whether there is nothing but known fields. -/
def hasKnownFields : Json → Bool
  | .obj members => members.all fun m => fieldNames.contains m.1
  | _ => true

/-- Reads a format of log lines: its name, or an object with nothing but the name. -/
def logFormat? : Json → Option Log.LineFormat
  | .str s => Log.LineFormat.ofName? s
  | .obj [(s, .null)] => Log.LineFormat.ofName? s
  | _ => none

/-- Reads a configuration. -/
def ofJson? (json : Json) : Option Config := do
  let [storePath, chunkSize, logLevel, logFormat] ← json.fields? fieldNames | none
  if !hasKnownFields json then none
  let storePath ← Json.withDefault none (Json.nullable? Json.text?) storePath
  let chunkSize ← Json.withDefault none (Json.nullable? Json.word?) chunkSize
  let logLevel ← Json.withDefault none (Json.nullable? Json.text?) logLevel
  let logFormat ← Json.withDefault .text logFormat? logFormat
  return { storePath, chunkSize, logLevel, logFormat }

/-- Refuses values that make no sense. -/
def validate (c : Config) : Except ConfigError Config :=
  if c.chunkSize = some 0 then .error .zeroChunkSize
  else if c.logLevel.any fun s => Text.trim s.toList = [] then .error .blankLogLevel
  else .ok c

/-- Reads the text of a configuration file. -/
def ofText (s : String) : Except ConfigError Config :=
  match (Json.ofText? s.toList).bind ofJson? with
  | some c => c.validate
  | none => .error .invalid

/-- Reads a configuration file, given what reading the file gives. -/
def load (path : String) (content : Except FileError String) : Except ConfigError Config :=
  match content with
  | .ok text => ofText text
  | .error reason => .error (.unreadable path reason)

end Config

/-- A chunk size of a number, unless it is zero. -/
def chunkSize? (n : Nat) : Option ChunkSize :=
  if h : 0 < n then some ⟨n, h⟩ else none

/-- The settings in force. -/
structure Settings where
  storePath : Option String
  chunkSize : Option ChunkSize
  logLevel : Option String
  logFormat : Log.LineFormat

namespace Settings

/-- The settings of a configuration with what the command line says. -/
def resolve (c : Config) (storePath : Option String) (chunkSize : Option ChunkSize)
    (logLevel : Option String) : Settings where
  storePath := storePath <|> c.storePath
  chunkSize := chunkSize <|> c.chunkSize.bind chunkSize?
  logLevel := logLevel <|> c.logLevel
  logFormat := c.logFormat

/-- The path of the store. -/
def store (s : Settings) : Except ConfigError String :=
  match s.storePath with
  | some path => .ok path
  | none => .error .noStore

/-- The filter of events in force. -/
def filter (s : Settings) (fromEnvironment : Option String) : Except ConfigError Log.Filter :=
  match Log.Filter.choose? s.logLevel fromEnvironment with
  | some filter => .ok filter
  | none => .error (.invalidLogLevel (s.logLevel.getD ""))

end Settings

end TokenInventory.CommandLine
