import TokenInventory.Proofs.Action.Change
import TokenInventory.Proofs.Store.Calls

/-!
# The calls of an action

An action does to the store what its calls do: a change is carried out on a stored token by at most
one call, and listings and exports make no call (`Performer.reaches_step`). The call of a change
saves what the change intends (`Change.intended_of_save`).
-/

namespace TokenInventory

/-- Whether a call carries a change out on a stored token. -/
inductive Change.Makes (c : Change) (store : Store) : StoreCall → Prop
  | save {token saved : Token} (hget : store.get? token.serial = some token)
    (heffect : (c.plan token).effect = .save saved) : c.Makes store (.save saved)
  | remove {token : Token} (hget : store.get? token.serial = some token)
    (heffect : (c.plan token).effect = .remove) : c.Makes store (.remove token.serial)

/-- Whether an action may make a call. Listings and exports make none. -/
def Action.Makes (action : Action) (store : Store) (call : StoreCall) : Prop :=
  ∃ c, action = .change c ∧ c.Makes store call

namespace Change

variable (c : Change) {store : Store} {token saved : Token}

theorem reaches_carryOut (hget : store.get? token.serial = some token) :
    Store.Reaches c.Makes store ((c.plan token).effect.carryOut token.serial store).2 := by
  cases heffect : (c.plan token).effect with
  | none => exact .refl
  | save saved => exact Store.Reaches.single (Makes.save hget heffect)
  | remove => exact Store.Reaches.single (Makes.remove hget heffect)

variable {c} in
theorem intended_of_save (h : (c.plan token).effect = .save saved) :
    c.intended token = some saved := by
  rw [← c.resultOn_effect, h]
  rfl

end Change

namespace Performer

variable {p p' : Performer} {store : Store} {token : Token} {text : String}

theorem action_start (action : Action) (entropy : Entropy) :
    (start action entropy).action = action := by
  unfold start
  split <;> rfl

theorem action_writeHead (p : Performer) : p.writeHead.2.action = p.action := by
  unfold writeHead
  split
  · split <;> rfl
  · rfl

theorem action_of_package {owner : Option User} (h : p.package token owner = .ok (text, p')) :
    p'.action = p.action := by
  unfold package at h
  split at h
  · next writer _ =>
    cases hwriter : writer.package token owner p.entropy with
    | error e => rw [hwriter] at h; cases h
    | ok r => rw [hwriter] at h; cases h; rfl
  · cases h
    rfl

theorem action_of_exported {format : ExportFormat} {inBase32 : Bool} {owner : Option User}
    (h : (p.exported format inBase32 token owner).2 = .ok (text, p')) : p'.action = p.action := by
  cases format with
  | rows =>
    simp only [exported] at h
    cases hrow : exportedRow token owner inBase32 with
    | error e => rw [hrow] at h; cases h
    | ok row => rw [hrow] at h; cases h; rfl
  | entries =>
    simp only [exported] at h
    cases hentry : Entry.ofToken token owner inBase32 with
    | error e => rw [hentry] at h; cases h
    | ok entry => rw [hentry] at h; cases h; rfl
  | container => exact (action_of_package h).trans p.action_writeHead

/-- A performer goes on with its action. -/
theorem action_step (p : Performer) (store : Store) (token : Token) :
    (p.step store token).performer.action = p.action := by
  unfold step
  cases haction : p.action with
  | list isSummary attributes =>
    unfold listStep
    cases isSummary <;> exact haction
  | exportAs format inBase32 =>
    unfold exportStep
    dsimp only
    split
    · next hexported => exact (action_of_exported (congrArg Prod.snd hexported)).trans haction
    · exact p.action_writeHead.trans haction
  | change c =>
    dsimp only
    rw [performer_changeStep, haction]

/-- What a step does to the store is done by calls that the action may make. -/
theorem reaches_step (p : Performer) (hget : store.get? token.serial = some token) :
    Store.Reaches p.action.Makes store (p.step store token).store := by
  unfold step
  cases p.action with
  | list isSummary attributes =>
    dsimp only
    rw [store_listStep]
    exact .refl
  | exportAs format inBase32 =>
    dsimp only
    rw [store_exportStep]
    exact .refl
  | change c =>
    dsimp only
    rw [store_changeStep]
    exact (c.reaches_carryOut hget).mono fun _ _ hmakes => ⟨c, rfl, hmakes⟩

end Performer

end TokenInventory
