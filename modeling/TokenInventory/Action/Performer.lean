import TokenInventory.Action.Change
import TokenInventory.Action.Listing
import TokenInventory.Action.Outcome
import TokenInventory.Exchange.Entry
import TokenInventory.KeyContainer.Writer
import TokenInventory.Run.Transcript

/-!
# Performing actions

A performer applies one action to tokens, one at a time. Each step gives an outcome and what is
written about it; a change is in the store before the next step. What concerns all tokens is written
at the end: the counts of a summary, or the foot of a container and the key of its seeds.
-/

namespace TokenInventory

/-- An action at work. -/
structure Performer where
  action : Action
  summary : OwnerSummary := SortedMap.empty
  /-- The container being written, if tokens are exported to one. -/
  container : Option KeyContainer.Writer := none
  /-- Whether the head of the container is written. -/
  hasHead : Bool := false
  entropy : Entropy

/-- What a step of a performer gives. -/
structure Step where
  outcome : Outcome
  outputs : List Output
  performer : Performer
  store : Store

namespace Performer

/-- A performer that has not done anything yet. A container gets a random key. -/
def start (action : Action) (entropy : Entropy) : Performer :=
  match action with
  | .exportAs .container _ =>
    let (writer, entropy) := KeyContainer.Writer.random entropy
    { action, container := some writer, entropy }
  | _ => { action, entropy }

/-- Writes the head of the container unless that is done. -/
def writeHead (p : Performer) : List Output × Performer :=
  match p.container with
  | some writer =>
    if p.hasHead then ([], p)
    else
      let (head, entropy) := writer.head p.entropy
      ([.result head], { p with hasHead := true, entropy })
  | none => ([], p)

/-- Writes the key package of a token. -/
def package (p : Performer) (token : Token) (owner : Option User) :
    Except ExchangeError (String × Performer) :=
  match p.container with
  | some writer => do
    let (text, writer, entropy) ← writer.package token owner p.entropy
    return (text, { p with container := some writer, entropy })
  | none => .ok ("", p)

/-- Writes a token in a format. -/
def exported (p : Performer) (format : ExportFormat) (inBase32 : Bool) (token : Token)
    (owner : Option User) : List Output × Except ExchangeError (String × Performer) :=
  match format with
  | .rows => ([], (exportedRow token owner inBase32).map fun row => (Text.line row, p))
  | .entries => ([], (Entry.ofToken token owner inBase32).map fun entry => (entry.write, p))
  | .container =>
    let (head, p) := p.writeHead
    (head, p.package token owner)

/-- Lists a token. -/
def listStep (p : Performer) (isSummary : Bool) (attributes : List String) (store : Store)
    (token : Token) : Step :=
  let owner := Ownership.ofToken store token
  let complaint :=
    match owner with
    | .unknown => [Output.noteLine ("Failed to determine user for token " ++ token.serial ++ ".")]
    | _ => []
  let outcome : Outcome := { serial := token.serial, status := .succeeded, detail := "listed" }
  if isSummary then
    { outcome, outputs := complaint, store
      performer := { p with summary := p.summary.add (ownerLabel attributes owner) } }
  else
    { outcome, store, performer := p
      outputs := complaint ++ Output.resultLine (listingRow token attributes owner) }

/-- Exports a token. -/
def exportStep (p : Performer) (format : ExportFormat) (inBase32 : Bool) (store : Store)
    (token : Token) : Step :=
  let owner := (Ownership.ofToken store token).user?
  let serial := token.serial
  match p.exported format inBase32 token owner with
  | (head, .ok (text, p)) =>
    { outcome := { serial, status := .succeeded, detail := "exported" }
      outputs := head ++ [.result text], performer := p, store }
  | (head, .error e) =>
    let complaint :=
      if e.isSkip then "Skipping token " ++ serial ++ ": " ++ e.message
      else "Failed to export token " ++ serial ++ ": " ++ e.message
    { outcome := { serial, status := if e.isSkip then .skipped else .failed, detail := e.message }
      outputs := head ++ [Output.noteLine complaint], performer := p.writeHead.2, store }

/-- Changes a token. -/
def changeStep (p : Performer) (c : Change) (store : Store) (token : Token) : Step :=
  let serial := token.serial
  let plan := c.plan token
  match plan.effect.carryOut serial store with
  | (.ok (), store) =>
    { outcome := { serial, status := .succeeded, detail := plan.detail }
      outputs := plan.status.flatMap Output.resultLine, performer := p, store }
  | (.error e, store) =>
    { outcome := { serial, status := .failed, detail := e.message }
      outputs := [Output.noteLine ("Failed to process token " ++ serial ++ ": " ++ e.message)]
      performer := p, store }

/-- Applies the action to a token. -/
def step (p : Performer) (store : Store) (token : Token) : Step :=
  match p.action with
  | .list isSummary attributes => p.listStep isSummary attributes store token
  | .exportAs format inBase32 => p.exportStep format inBase32 store token
  | .change c => p.changeStep c store token

/-- What is written after the last token. -/
def finish (p : Performer) : List Output :=
  let (head, p) := p.writeHead
  let foot :=
    match p.container with
    | some writer => [.result KeyContainer.footText, .note (.text writer.banner)]
    | none => []
  p.summary.lines.flatMap Output.resultLine ++ head ++ foot

end Performer

end TokenInventory
