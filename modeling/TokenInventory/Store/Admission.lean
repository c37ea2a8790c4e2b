import TokenInventory.Store.Basic

/-!
# Fetching tokens

A store hands out the tokens that an admission rule lets through, in ascending order of their
serials, from a serial on and up to a number of them.
-/

namespace TokenInventory

/-- A rule that a store applies when it hands out tokens; what is not given does not matter. -/
structure Admission where
  /-- The type, in any case of its letters. -/
  tokenType : Option String := none
  active : Option Bool := none
  assigned : Option Bool := none

namespace Admission

/-- Whether a token is let through. -/
def admits (admission : Admission) (token : Token) : Bool :=
  admission.tokenType.all (Text.sameLetters token.tokenType) &&
    admission.active.all (token.active == ·) &&
    admission.assigned.all (token.isAssigned == ·)

end Admission

namespace Store

/-- The admitted tokens with serials after the given one, at most `limit` of them. -/
def fetch (store : Store) (admission : Admission) (after : Option String) (limit : Option Nat) :
    List Token :=
  let admitted := (store.tokens.after after).filter admission.admits
  match limit with
  | none => admitted
  | some limit => admitted.take limit

end Store

end TokenInventory
