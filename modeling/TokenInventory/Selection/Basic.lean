import TokenInventory.Calendar.Age
import TokenInventory.Criteria.Filter
import TokenInventory.Store.Basic

/-!
# Selection

The checks that a token has to pass to be selected, one after the other: its last authentication is
not recent, its serial and its description fit patterns, it lacks and it has certain info entries,
it passes filters on an info entry and on a column, and its owner is or is not in the directory.
-/

namespace TokenInventory

/-- The checks of a selection; those that are not given do not matter. -/
structure Selection where
  /-- Leaves out tokens that authenticated less than this age ago. -/
  lastAuthentication : Option Age := none
  serial : Option Pattern := none
  description : Option Pattern := none
  hasKey : Option String := none
  lacksKey : Option String := none
  infoFilter : Option FieldFilter := none
  columnFilter : Option FieldFilter := none
  orphaned : Option Bool := none

/-- What is around a selection: the local time zone and the present instant. -/
structure Circumstances where
  zone : Zone
  now : Instant

namespace Selection

/-- Whether the last authentication of a token is less than an age ago. A token whose last
authentication cannot be read is not recent. `none` means that the age reaches beyond the calendar.
-/
def isRecent? (around : Circumstances) (age : Age) (token : Token) : Option Bool :=
  match token.lastAuthentication?.bind fun s =>
      readStoredInstant around.zone .universalTime s.toList with
  | none => some false
  | some instant => age.isNewer? instant around.now

/-- Whether a token passes all checks but the one of its last authentication. -/
def passes (around : Circumstances) (users : List User) (selection : Selection) (token : Token) :
    Bool :=
  selection.serial.all (·.fits token.serial) &&
    selection.description.all (·.fits token.description) &&
    selection.lacksKey.all (!token.info.contains ·) &&
    selection.hasKey.all (token.info.contains ·) &&
    selection.infoFilter.all (·.accepts around.zone token) &&
    selection.columnFilter.all (·.accepts around.zone token) &&
    selection.orphaned.all (token.isOrphaned users == ·)

/-- Whether a token is selected; `none` if that depends on an instant beyond the calendar. -/
def accepts? (around : Circumstances) (users : List User) (selection : Selection) (token : Token) :
    Option Bool :=
  let recent :=
    match selection.lastAuthentication with
    | none => some false
    | some age => isRecent? around age token
  recent.map fun recent => !recent && selection.passes around users token

/-- The selected tokens of a batch in their order; `none` if one of them cannot be decided. -/
def select? (around : Circumstances) (users : List User) (selection : Selection)
    (batch : List Token) : Option (List Token) :=
  batch.filterMapM fun token =>
    (selection.accepts? around users token).map fun isSelected =>
      if isSelected then some token else none

end Selection

end TokenInventory
