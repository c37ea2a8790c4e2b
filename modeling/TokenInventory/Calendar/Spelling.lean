import TokenInventory.Calendar.Format

/-!
# Spelled dates

Reading the instant that a text stands for. A text with an offset stands for one instant; all other
texts are placed either in universal time or in the local zone. Stored values may also be written in
the former format.
-/

namespace TokenInventory

/-- Where a date without an offset is placed. -/
inductive Placement
  | localTime
  | universalTime
  deriving DecidableEq, Repr

namespace Placement

/-- The instant of a reading, given the local zone. -/
def instant? (placement : Placement) (zone : Zone) (r : Reading) : Option Instant :=
  match placement with
  | localTime => zone.instant? r
  | universalTime => some ⟨r.seconds, r.nanosecond⟩

end Placement

/-- What a text says about time. -/
inductive Spelling
  /-- An instant. -/
  | instant (i : Instant)
  /-- A reading that is still to be placed. -/
  | reading (r : Reading)
  deriving DecidableEq

namespace Spelling

/-- The date and time, or the date alone at midnight, of a text without an offset. -/
def reading? (s : List Char) : Option Reading :=
  Format.withoutOffset.findSome? (fun format => (format.read s).bind Fields.reading?) <|>
    ((Format.date.read s).bind Fields.date?).map Reading.midnight

/-- Reads a text without blanks at its ends. The first format that fits counts. -/
def ofText? (s : List Char) : Option Spelling :=
  (Format.withOffset.findSome? fun format => (format.read s).bind Fields.instant?).map instant <|>
    (reading? s).map reading

/-- The instant of a spelling. -/
def instant? (zone : Zone) (placement : Placement) : Spelling → Option Instant
  | instant i => some i
  | reading r => placement.instant? zone r

end Spelling

/-- The instant that a text stands for. -/
def readInstant (zone : Zone) (placement : Placement) (s : List Char) : Option Instant :=
  (Spelling.ofText? (Text.trim s)).bind (Spelling.instant? zone placement)

/-- The instant that a stored text stands for. -/
def readStoredInstant (zone : Zone) (placement : Placement) (s : List Char) : Option Instant :=
  readInstant zone placement s <|>
    ((Format.former.read (Text.trim s)).bind Fields.reading?).bind (placement.instant? zone)

end TokenInventory
