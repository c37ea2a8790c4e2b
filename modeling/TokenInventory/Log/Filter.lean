import TokenInventory.Log.Event
import TokenInventory.Pattern.CharClass
import TokenInventory.Text.Basic

/-!
# Filters of events

A filter is a list of directives with commas between them. A directive names a level, or a target
and perhaps a level for it; of the directives whose target begins the target of an event, the one
with the longest target decides. A directive may also be about spans, which no event of this program
is in; it then does not concern any event. Without directives only errors pass.
-/

namespace TokenInventory.Log

/-- How much passes a filter: nothing, or the levels up to one. -/
abbrev Threshold : Type :=
  Option Level

namespace Threshold

/-- Whether a level passes. -/
def passes (threshold : Threshold) (level : Level) : Bool :=
  threshold.any fun most => level.rank ≤ most.rank

/-- The thresholds by their names. -/
def names : List (String × Threshold) :=
  [("off", none), ("error", some .error), ("warn", some .warning), ("info", some .info),
    ("debug", some .debug), ("trace", some .trace)]

/-- The threshold that a name stands for, whatever the case of its letters, or a number from 0 to
5. -/
def ofText? (s : String) : Option Threshold :=
  match names.lookup (Text.lowered s) with
  | some threshold => some threshold
  | none => (Text.readUnsigned s.toList).bind fun n => (names[n]?).map Prod.snd

end Threshold

/-- What a filter says about a target. -/
structure Directive where
  /-- The beginning of the targets that the directive is about; `none` for all of them. -/
  target : Option String
  threshold : Threshold
  /-- Whether the directive is about spans only. -/
  isForSpans : Bool := false
  deriving DecidableEq, Repr

/-- A filter of events. -/
abbrev Filter : Type :=
  List Directive

namespace Directive

/-- Whether a character may stand in a target. -/
def isTargetChar (c : Char) : Bool :=
  c = ':' || c = '-' || CharClass.isWord c

/-- The part of a directive before its level: a target, spans between brackets, or both. -/
def readSubject (s : List Char) : Option (Option String × Bool × List Char) :=
  let readSpans (s : List Char) : Option (Option (List Char) × List Char) :=
    match s with
    | '[' :: s => (Text.splitFirst? ']' s).map fun (spans, rest) => (some spans, rest)
    | _ => some (none, s)
  let target := s.takeWhile isTargetChar
  match readSpans (s.dropWhile isTargetChar) with
  | none => none
  | some (spans, rest) =>
    let later := if target = [] then rest.takeWhile isTargetChar else []
    let rest := rest.drop later.length
    let named := target ++ later
    if named = [] && spans.isNone then none
    else
      let target := if named = [] then none else some (String.ofList named)
      some (target, spans.any (· ≠ []), rest)

/-- The threshold after the subject of a directive; everything passes if there is none. -/
def readThreshold : List Char → Option Threshold
  | [] => some (some .trace)
  | ['='] => some (some .trace)
  | '=' :: s =>
    if s.all Char.isAlpha || s.length = 1 then Threshold.ofText? (String.ofList s) else none
  | _ => none

/-- Reads a directive. A target that is the name of a threshold does not count. -/
def ofText? (s : String) : Option Directive :=
  match if s.length = 1 || s.toList.all Char.isAlpha then Threshold.ofText? s else none with
  | some threshold => some { target := none, threshold }
  | none => do
    let (target, isForSpans, rest) ← readSubject s.toList
    let threshold ← readThreshold rest
    return { target := target.filter fun t => (Threshold.ofText? t).isNone, threshold, isForSpans }

/-- Whether the directive is about a target. -/
def concerns (d : Directive) (target : String) : Bool :=
  !d.isForSpans && d.target.all fun t => Text.startsWith t.toList target.toList

/-- How special a directive is. -/
def specificity (d : Directive) : Nat :=
  match d.target with
  | none => 0
  | some t => t.utf8ByteSize + 1

end Directive

namespace Filter

/-- Reads a filter. -/
def ofText? (s : String) : Option Filter :=
  let parts := (Text.splitAll ',' s.toList).filter (· ≠ [])
  parts.mapM fun part => Directive.ofText? (String.ofList part)

/-- The directive that lets errors pass. -/
def errorsOnly : Directive where
  target := none
  threshold := some .error

/-- The more special of two directives; of equally special ones the later. -/
def moreSpecial (earlier : Option Directive) (d : Directive) : Option Directive :=
  match earlier with
  | some e => if d.specificity < e.specificity then some e else some d
  | none => some d

/-- The directive that decides about a target. -/
def deciding? (filter : Filter) (target : String) : Option Directive :=
  let directives := if filter = [] then [errorsOnly] else filter
  (directives.filter (·.concerns target)).foldl moreSpecial none

/-- Whether an event passes. -/
def passes (filter : Filter) (e : Event) : Bool :=
  (filter.deciding? e.origin.target).any fun d => Threshold.passes d.threshold e.level

/-- The filter that lets everything up to a level pass. -/
def upTo (level : Level) : Filter :=
  [{ target := none, threshold := some level }]

/-- The filter in force: the one that was chosen, or else the one that the environment names if it
can be read, or else everything up to `info`. `none` if the chosen one cannot be read. -/
def choose? (chosen fromEnvironment : Option String) : Option Filter :=
  match chosen with
  | some s => ofText? s
  | none => some ((fromEnvironment.bind ofText?).getD (upTo .info))

end Filter

end TokenInventory.Log
