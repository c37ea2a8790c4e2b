import TokenInventory.CommandLine.Compile

/-!
# The program

An invocation is carried out in surroundings that say what is in the files and what time it is. What
comes of it are an exit code, results, notes about the work and perhaps a changed store file.
-/

namespace TokenInventory.CommandLine

/-- What an invocation depends on besides its arguments. -/
structure Surroundings where
  /-- What reading the file at a path gives. -/
  read : String → Except FileError String
  /-- Whether the attempt with a given number to write the store succeeds. -/
  accepts : Nat → Bool := fun _ => true
  zone : Zone
  now : Instant
  entropy : Entropy
  /-- The filter of log lines that the environment names. -/
  logVariable : Option String := none

/-- How log lines are shown. -/
structure LogSettings where
  filter : Log.Filter
  format : Log.LineFormat

/-- What comes of an invocation. -/
structure Conclusion where
  error : Option CommandError := none
  transcript : Transcript := {}
  /-- How log lines are shown; `none` if the settings were not understood. -/
  log : Option LogSettings := none
  /-- The file of the store and its path, if the store was opened. -/
  storeFile : Option (String × BackingFile) := none

/-- A note as it is shown, at a time that is given. -/
def noteText (format : Log.LineFormat) (time : String) : Note → String
  | .text s => s
  | .event e =>
    match format with
    | .text => Text.line (time ++ " " ++ e.shown)
    | .json => Text.line (Json.toCompact (e.toJson (some time)))

namespace Conclusion

/-- The exit code. -/
def exitCode (c : Conclusion) : Nat :=
  match c.error with
  | none => 0
  | some e => e.exitCode

/-- The notes that are shown, in their order, the error at the end. -/
def shownNotes (c : Conclusion) : List Note :=
  let isShown : Note → Bool
    | .text _ => true
    | .event e => c.log.any fun log => log.filter.passes e
  c.transcript.notes.reverse.filter isShown ++ (c.error.map fun e => Note.text e.line).toList

/-- How log lines are shown. -/
def logFormat (c : Conclusion) : Log.LineFormat :=
  match c.log with
  | none => .text
  | some log => log.format

/-- The path and the new content of the store, if an attempt was made to write it. -/
def writtenStore? (c : Conclusion) : Option (String × String) :=
  match c.storeFile with
  | none => none
  | some (path, file) => if file.attempts = 0 then none else some (path, file.content)

end Conclusion

/-- Opens the store that the settings name. -/
def openStore (around : Surroundings) (settings : Settings) :
    Except CommandError (String × Store) :=
  match settings.store with
  | .error reason => .error (.config reason)
  | .ok path =>
    match around.read path with
    | .error reason => .error (.store (.file reason))
    | .ok content =>
      match Store.ofFile { content, accepts := around.accepts } with
      | .error reason => .error (.store reason)
      | .ok store => .ok (path, store)

/-- The file to import at a path. -/
def importFile (around : Surroundings) (path : String) : ImportFile where
  path := path
  content := around.read path

/-- The file of a store with its path. -/
def fileOf (path : String) (store : Store) : Option (String × BackingFile) :=
  store.file.map fun file => (path, file)

/-- The event of a search that failed for tokens. -/
def failuresEvent (failed : Nat) : Log.Event where
  level := .warning
  origin := .command
  message := "some tokens could not be processed"
  fields := [("failed", .number failed)]

/-- Carries a search out. -/
def find (around : Surroundings) (settings : Settings) (request : FindRequest) : Conclusion :=
  match request.task around.zone with
  | .error e => { error := some e }
  | .ok task =>
    match openStore around settings with
    | .error e => { error := some e }
    | .ok (path, store) =>
      let task := { task with chunkSize := settings.chunkSize }
      match task.run { zone := around.zone, now := around.now } around.entropy {} store with
      | (.error e, p) =>
        { error := some (.ofRun e), transcript := p.transcript, storeFile := fileOf path p.store }
      | (.ok report, p) =>
        let warnings :=
          if report.tally.hasFailures then [Output.event (failuresEvent report.tally.failed)]
          else []
        let p := p.write warnings
        { transcript := p.transcript, storeFile := fileOf path p.store }

/-- Carries an import out. -/
def importWith (around : Surroundings) (settings : Settings)
    (act : ImportProgress → Except ImportError ImportSummary × ImportProgress) : Conclusion :=
  match openStore around settings with
  | .error e => { error := some e }
  | .ok (path, store) =>
    let (result, p) := act { store }
    { error := match result with | .ok _ => none | .error e => some (.ofImport e)
      transcript := p.transcript
      storeFile := fileOf path p.store }

/-- Carries a command out. -/
def carryOut (around : Surroundings) (settings : Settings) : Command → Conclusion
  | .find request => find around settings request
  | .update path => importWith around settings (updateTokens (importFile around path))
  | .load path key policy =>
    importWith around settings (loadTokens (importFile around path) key policy)

/-- The chunk size that a command asks for. -/
def Command.chunkSize? : Command → Option ChunkSize
  | .find request => request.chunkSize
  | _ => none

/-- The configuration that an invocation names. -/
def configOf (around : Surroundings) (invocation : Invocation) : Except ConfigError Config :=
  match invocation.config with
  | none => .ok {}
  | some path => Config.load path (around.read path)

/-- The paths of the files that a command reads. -/
def Command.paths : Command → List String
  | .find _ => []
  | .update path => [path]
  | .load path _ _ => [path]

/-- The paths of the files that an invocation reads, given its configuration if it can be read. -/
def pathsOf (invocation : Invocation) (config : Except ConfigError Config) : List String :=
  let configured :=
    match config with
    | .ok c => c.storePath.toList
    | .error _ => []
  invocation.config.toList ++ invocation.store.toList ++ configured ++ invocation.command.paths

/-- Carries an invocation out. -/
def conclude (around : Surroundings) (invocation : Invocation) : Conclusion :=
  match configOf around invocation with
  | .error reason => { error := some (.config reason) }
  | .ok config =>
    let settings := Settings.resolve config invocation.store invocation.command.chunkSize?
      invocation.logLevel
    match settings.filter around.logVariable with
    | .error reason => { error := some (.config reason) }
    | .ok filter =>
      { carryOut around settings invocation.command with
        log := some { filter, format := settings.logFormat } }

end TokenInventory.CommandLine
