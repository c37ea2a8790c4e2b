import TokenInventory.Action.Performer
import TokenInventory.Proofs.Store.Commit

/-!
# What an action leaves alone

A change never gives a token another serial (`Change.serial_of_save`), so the step that applies an
action to a token touches no token with another serial (`Performer.step_agreesOutside`). Listings
and exports touch no token at all (`Performer.store_listStep`, `Performer.store_exportStep`).
-/

namespace TokenInventory

theorem Token.serial_foldl_withInfo (pairs : List (String × String)) (token : Token) :
    (pairs.foldl (fun token (key, value) => token.withInfo key value) token).serial =
      token.serial := by
  induction pairs generalizing token with
  | nil => rfl
  | cons pair pairs ih => exact ih (token.withInfo pair.1 pair.2)

theorem Change.serial_of_save {c : Change} {token saved : Token}
    (h : (c.plan token).effect = .save saved) : saved.serial = token.serial := by
  cases c with
  | setRealms realms => cases h; rfl
  | disable =>
    simp only [plan] at h
    split at h <;> cases h
    rfl
  | delete => cases h
  | unassign =>
    simp only [plan] at h
    split at h <;> cases h
    rfl
  | setDescription description => cases h; rfl
  | setInfo pairs => cases h; exact Token.serial_foldl_withInfo pairs token
  | deleteInfo keys => cases h; rfl

theorem Effect.carryOut_agreesOutside {effect : Effect} {serial : String}
    (h : ∀ saved, effect = .save saved → saved.serial = serial) (store : Store) :
    Store.AgreesOutside [serial] (effect.carryOut serial store).2 store := by
  cases effect with
  | none => exact .refl _ _
  | save token => exact h token rfl ▸ store.save_agreesOutside token
  | remove => exact store.remove_agreesOutside serial

namespace Performer

theorem store_listStep (p : Performer) (isSummary : Bool) (attributes : List String)
    (store : Store) (token : Token) :
    (p.listStep isSummary attributes store token).store = store := by
  unfold listStep
  cases isSummary <;> rfl

theorem store_exportStep (p : Performer) (format : ExportFormat) (inBase32 : Bool) (store : Store)
    (token : Token) : (p.exportStep format inBase32 store token).store = store := by
  unfold exportStep
  dsimp only
  split <;> rfl

theorem store_changeStep (p : Performer) (c : Change) (store : Store) (token : Token) :
    (p.changeStep c store token).store =
      ((c.plan token).effect.carryOut token.serial store).2 := by
  unfold changeStep
  dsimp only
  split <;> next heq => rw [heq]

/-- An action applied to a token touches no token with another serial. -/
theorem step_agreesOutside (p : Performer) (store : Store) (token : Token) :
    Store.AgreesOutside [token.serial] (p.step store token).store store := by
  unfold step
  cases p.action with
  | list isSummary attributes => exact p.store_listStep _ _ _ _ ▸ .refl _ _
  | exportAs format inBase32 => exact p.store_exportStep _ _ _ _ ▸ .refl _ _
  | change c =>
    rw [p.store_changeStep]
    exact Effect.carryOut_agreesOutside (fun _ h => Change.serial_of_save h) store

end Performer

end TokenInventory
