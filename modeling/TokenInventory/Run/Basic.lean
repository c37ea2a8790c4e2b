import TokenInventory.Action.Performer
import TokenInventory.Json.Writer
import TokenInventory.Selection.Basic
import TokenInventory.Selection.Scan

/-!
# Runs

A run scans a store, selects tokens of each batch and applies an action to the selected ones, in the
order of the scan. It is refused before any token is touched if the parameters of the action would
fail for every token. The failure of an action for one token does not stop it; a broken channel
does.
-/

namespace TokenInventory

/-- What a run has to do. -/
structure Task where
  admission : Admission := {}
  selection : Selection := {}
  chunkSize : Option ChunkSize := none
  action : Action

/-- How many batches and tokens a run has seen and how many tokens it has selected. -/
structure Counters where
  batches : Nat := 0
  scanned : Nat := 0
  matched : Nat := 0
  deriving DecidableEq, Repr

namespace Counters

/-- The counters after one more batch. -/
def add (c : Counters) (scanned matched : Nat) : Counters where
  batches := c.batches + 1
  scanned := c.scanned + scanned
  matched := c.matched + matched

/-- The counters in JSON. -/
def shown (c : Counters) : String :=
  Json.toCompact (.obj [("batches", .ofNat c.batches), ("scanned", .ofNat c.scanned),
    ("matched", .ofNat c.matched)])

end Counters

/-- Why a run has ended early. -/
inductive RunError
  /-- The parameters of the action are refused. -/
  | refused (reason : ParameterError)
  /-- The channel of the results is broken. -/
  | brokenChannel
  /-- An age reaches beyond the calendar. -/
  | beyondCalendar
  deriving DecidableEq, Repr

/-- How far a run has come. -/
structure Progress where
  store : Store
  performer : Performer
  transcript : Transcript := {}
  counters : Counters := {}
  /-- The outcomes, the latest first. -/
  outcomes : List Outcome := []
  tally : Tally := {}

/-- What a finished run has counted. -/
structure Report where
  counters : Counters
  tally : Tally
  deriving DecidableEq, Repr

namespace Progress

/-- Whether nothing more can be written. -/
def isBroken (p : Progress) : Bool :=
  p.transcript.isBroken

/-- Writes something. -/
def write (p : Progress) (outputs : List Output) : Progress :=
  { p with transcript := p.transcript.writeAll outputs }

/-- Counts an outcome. -/
def record (p : Progress) (outcome : Outcome) : Progress :=
  { p with outcomes := outcome :: p.outcomes, tally := p.tally.record outcome }

/-- Applies the action to a token. The outcome counts only if everything about it
could be written. -/
def perform (p : Progress) (token : Token) : Progress :=
  if p.isBroken then p
  else
    let step := p.performer.step p.store token
    let p := { p with store := step.store, performer := step.performer }.write step.outputs
    if p.isBroken then p
    else
      let p := p.record step.outcome
      if step.outcome.isFailure then p.write [.event step.outcome.failureEvent] else p

/-- Applies the action to one token after the other. -/
def performAll (p : Progress) (tokens : List Token) : Progress :=
  tokens.foldl perform p

/-- Writes what comes after the last token. -/
def finish (p : Progress) : Progress :=
  p.write p.performer.finish

/-- What has been counted. -/
def report (p : Progress) : Report where
  counters := p.counters
  tally := p.tally

end Progress

namespace Task

/-- The event of the start of a run. -/
def startEvent (task : Task) : Log.Event :=
  match task.chunkSize with
  | none => { level := .info, origin := .run, message := "reading tokens" }
  | some size =>
    { level := .info, origin := .run, message := "reading tokens in chunks"
      fields := [("chunk_size", .number size.val)] }

/-- The event of a batch. -/
def batchEvent (scanned matched : Nat) : Log.Event where
  level := .info
  origin := .selection
  message := "tokens processed"
  fields := [("scanned", .number scanned), ("matched", .number matched)]

/-- The events of the end of a run. -/
def endEvents (task : Task) (report : Report) : List Log.Event :=
  [{ level := .info, origin := .run, message := "run finished"
     fields :=
       [("action", .text task.action.name), ("scanned", .number report.counters.scanned),
        ("matched", .number report.counters.matched),
        ("succeeded", .number report.tally.succeeded), ("failed", .number report.tally.failed),
        ("skipped", .number report.tally.skipped)] },
   { level := .debug, origin := .run, message := "run metrics"
     fields := [("metrics", .text report.counters.shown)] }]

/-- Scans, selects and acts until the scan is over. -/
def proceed (task : Task) (around : Circumstances) : Nat → Scan → Progress →
    Except RunError Unit × Progress
  | 0, _, p => (.ok (), p)
  | fuel + 1, scan, p =>
    match scan.next p.store with
    | (none, _) => (.ok (), p)
    | (some batch, scan) =>
      match task.selection.select? around p.store.users batch with
      | none => (.error .beyondCalendar, p)
      | some tokens =>
        let counters := p.counters.add batch.length tokens.length
        let p := { p with counters }.write [.event (batchEvent batch.length tokens.length)]
        let p := p.performAll tokens
        if p.isBroken then (.error .brokenChannel, p) else proceed task around fuel scan p

/-- Writes the end of a run. -/
def conclude (task : Task) (p : Progress) : Except RunError Report × Progress :=
  let p := p.finish
  if p.isBroken then (.error .brokenChannel, p)
  else (.ok p.report, p.write ((task.endEvents p.report).map .event))

/-- The scan of a run. -/
def scan (task : Task) : Scan where
  admission := task.admission
  chunkSize := task.chunkSize

/-- Runs a task on a store whose results go to a channel. A scan has at most one batch for each
token and one more. -/
def run (task : Task) (around : Circumstances) (entropy : Entropy) (transcript : Transcript)
    (store : Store) : Except RunError Report × Progress :=
  let p : Progress := { store, performer := .start task.action entropy, transcript }
  match task.action.validate store with
  | .error reason => (.error (.refused reason), p)
  | .ok () =>
    match task.proceed around (store.size + 2) task.scan (p.write [.event task.startEvent]) with
    | (.error e, p) => (.error e, p)
    | (.ok (), p) => task.conclude p

/-- The serials of the tokens that the rest of a scan selects. -/
def selectFrom? (task : Task) (around : Circumstances) (store : Store) :
    Nat → Scan → Option (List String)
  | 0, _ => some []
  | fuel + 1, scan =>
    match scan.next store with
    | (none, _) => some []
    | (some batch, scan) => do
      let tokens ← task.selection.select? around store.users batch
      let later ← task.selectFrom? around store fuel scan
      return tokens.map Token.serial ++ later

/-- The serials of the selected tokens; `none` if an age reaches beyond the calendar. -/
def select? (task : Task) (around : Circumstances) (store : Store) : Option (List String) :=
  task.selectFrom? around store (store.size + 2) task.scan

end Task

end TokenInventory
