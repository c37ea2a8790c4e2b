import TokenInventory.Log.Event

/-!
# Transcripts

A program writes its results to one channel and notes about its work to another. The channel of the
results may take a limited number of bytes only; a write that would go beyond the limit breaks it,
and from then on nothing more is written at all.
-/

namespace TokenInventory

/-- A note about the work of a program. -/
inductive Note
  | text (s : String)
  | event (e : Log.Event)
  deriving DecidableEq, Repr

/-- What a program writes. -/
inductive Output
  | result (s : String)
  | note (n : Note)
  deriving DecidableEq, Repr

namespace Output

/-- A line of results; its end is written by itself. -/
def resultLine (s : String) : List Output :=
  [.result s, .result "\n"]

/-- A line about the work. -/
def noteLine (s : String) : Output :=
  .note (.text (Text.line s))

/-- An event. -/
def event (e : Log.Event) : Output :=
  .note (.event e)

end Output

/-- What has been written. -/
structure Transcript where
  /-- The number of bytes that the channel of the results takes. -/
  limit : Option Nat := none
  result : String := ""
  /-- The notes, the latest first. -/
  notes : List Note := []
  isBroken : Bool := false

namespace Transcript

/-- Whether the channel of the results takes a text. -/
def takes (t : Transcript) (s : String) : Bool :=
  t.limit.all fun limit => t.result.utf8ByteSize + s.utf8ByteSize ≤ limit

/-- Writes something, unless the channel is broken. -/
def write (t : Transcript) (output : Output) : Transcript :=
  if t.isBroken then t
  else
    match output with
    | .result s =>
      if t.takes s then { t with result := t.result ++ s } else { t with isBroken := true }
    | .note n => { t with notes := n :: t.notes }

/-- Writes one thing after the other. -/
def writeAll (t : Transcript) (outputs : List Output) : Transcript :=
  outputs.foldl write t

/-- The texts among the notes. -/
def noteText (t : Transcript) : String :=
  t.notes.foldl (fun later n => match n with | .text s => s ++ later | .event _ => later) ""

end Transcript

end TokenInventory
