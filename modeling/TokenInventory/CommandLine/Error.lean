import TokenInventory.Criteria.Basic
import TokenInventory.Run.Basic
import TokenInventory.Run.Import

/-!
# Errors of commands

Why a command ends without doing its work. Each error has a code and a message; both are shown in
one line.
-/

namespace TokenInventory.CommandLine

/-- What is wrong with the settings. -/
inductive ConfigError
  | unreadable (path : String) (reason : FileError)
  /-- The file is no configuration. -/
  | invalid
  | zeroChunkSize
  | blankLogLevel
  /-- No store is named. -/
  | noStore
  | invalidLogLevel (level : String)
  deriving DecidableEq, Repr

/-- The wording of an error. -/
def ConfigError.message : ConfigError → String
  | unreadable path reason => "Failed to read config " ++ path ++ ": " ++ reason.message
  | invalid => "Invalid config JSON: not a configuration"
  | zeroChunkSize => "chunk_size must be > 0"
  | blankLogLevel => "log_level must not be empty"
  | noStore => "no token store configured, use --store or store_path"
  | invalidLogLevel level => "invalid log level '" ++ level ++ "': not a filter"

/-- The property of a token that a pattern is about. -/
inductive PatternOption
  | serial
  | description
  deriving DecidableEq, Repr

/-- The name of a property. -/
def PatternOption.name : PatternOption → String
  | serial => "serial"
  | description => "description"

/-- Why a command ends without doing its work. -/
inductive CommandError
  | config (reason : ConfigError)
  | criterion (reason : CriteriaError)
  /-- A text is no pattern. -/
  | pattern (option : PatternOption) (text : String)
  | action (reason : ParameterError)
  | store (reason : StoreError)
  | importing (reason : ImportError)
  /-- The channel of the results is broken. -/
  | brokenChannel
  /-- An age reaches beyond the calendar. -/
  | beyondCalendar
  deriving DecidableEq, Repr

namespace CommandError

/-- The error of a run. -/
def ofRun : RunError → CommandError
  | .refused reason => action reason
  | .brokenChannel => brokenChannel
  | .beyondCalendar => beyondCalendar

/-- The error of an import. -/
def ofImport : ImportError → CommandError
  | .brokenChannel => brokenChannel
  | reason => importing reason

/-- The code of an error. -/
def code : CommandError → String
  | config _ => "JANITOR_CONFIG_ERROR"
  | criterion _ | pattern _ _ => "JANITOR_INVALID_CRITERION"
  | action _ => "JANITOR_INVALID_ACTION"
  | store _ => "JANITOR_STORE_ERROR"
  | importing _ => "JANITOR_IMPORT_ERROR"
  | brokenChannel => "JANITOR_IO_ERROR"
  | beyondCalendar => "JANITOR_CALENDAR_ERROR"

/-- The wording of an error. -/
def message : CommandError → String
  | config reason => reason.message
  | criterion reason => reason.message
  | pattern option text => "Invalid " ++ option.name ++ " pattern '" ++ text ++ "': not a pattern"
  | action reason => reason.message
  | store reason => reason.message
  | importing reason => reason.message
  | brokenChannel => "broken channel"
  | beyondCalendar => "the age reaches beyond the calendar"

/-- The line of an error. -/
def line (e : CommandError) : String :=
  Text.line (e.code ++ ": " ++ e.message)

/-- The exit code of a program that ends with an error. -/
def exitCode : CommandError → Nat
  | beyondCalendar => 101
  | _ => 1

end CommandError

end TokenInventory.CommandLine
