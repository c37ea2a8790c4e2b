import TokenInventory.Proofs.Action.Frame

/-!
# What a change makes of a token

Each change has one result on a token (`Change.intended`), and its plan aims at it
(`Change.resultOn_effect`). Carried out on a stored token, the plan either gives that result or
fails and leaves all tokens as they are; it fails if a token would be saved in a realm that is not
known or if the file of the store refuses to be written (`Effect.error?`, `Effect.carryOut_cases`).
A step tells of the change in the results if it succeeds and in the notes if it fails
(`Performer.changeStep_cases`).
-/

namespace TokenInventory

namespace Change

/-- What a change is to make of a token; nothing if it takes the token away. -/
def intended (token : Token) : Change → Option Token
  | setRealms realms =>
    some { token with realms := realms ++ (token.owner.toList.map Owner.realm).filter (· ∉ realms) }
  | disable => some { token with active := false }
  | delete => none
  | unassign =>
    some { token with owner := none, failures := if token.isAssigned then 0 else token.failures }
  | setDescription description => some { token with description }
  | setInfo pairs =>
    some { token with
      info := pairs.foldl (fun info (key, value) => info.insert key value) token.info }
  | deleteInfo keys => some { token with info := keys.foldl SortedMap.erase token.info }

end Change

/-- Of the values that are set for a key, the last counts. -/
theorem get?_foldl_insert (pairs : List (String × String)) (info : SortedMap String)
    (key : String) : (pairs.foldl (fun info (key, value) => info.insert key value) info).get? key =
      ((pairs.reverse.find? (·.1 = key)).map Prod.snd).or (info.get? key) := by
  induction pairs generalizing info with
  | nil => rfl
  | cons pair pairs ih =>
    rw [List.foldl_cons, ih, SortedMap.get?_insert, List.reverse_cons, List.find?_append]
    cases pairs.reverse.find? (·.1 = key) with
    | some found => rfl
    | none =>
      by_cases h : pair.1 = key <;> simp [h]

theorem get?_foldl_erase (keys : List String) (info : SortedMap String) (key : String) :
    (keys.foldl SortedMap.erase info).get? key =
      if key ∈ keys then none else info.get? key := by
  induction keys generalizing info with
  | nil => rfl
  | cons erased keys ih =>
    rw [List.foldl_cons, ih, SortedMap.get?_erase]
    by_cases h : erased = key
    · simp [h]
    · simp [h, Ne.symm h]

/-- What an effect makes of a token. -/
def Effect.resultOn (token : Token) : Effect → Option Token
  | .none => some token
  | .save saved => some saved
  | .remove => Option.none

/-- Whether an effect is to save a token in a realm that a store does not know. -/
def Effect.IsHindered (store : Store) : Effect → Prop
  | .save saved => ∃ realm ∈ saved.realms, store.knowsRealm realm = false
  | _ => False

/-- Why an effect on a stored token fails after the file of the store, if there is one, has been
asked `n` more times; `none` if it does not fail. -/
def Effect.error? (store : Store) (n : Nat) : Effect → Option StoreError
  | .none => Option.none
  | .save saved =>
    match saved.realms.find? fun realm => !store.knowsRealm realm with
    | some realm => some (.unknownRealm realm)
    | Option.none => if store.refuses n then some (.file .refused) else Option.none
  | .remove => if store.refuses n then some (.file .refused) else Option.none

/-- How often an effect on a stored token asks the file of the store, if there is one. -/
def Effect.attempts (store : Store) : Effect → Nat
  | .none => 0
  | .save saved =>
    match saved.realms.find? fun realm => !store.knowsRealm realm with
    | some _ => 0
    | Option.none => 1
  | .remove => 1

theorem realmsWithOwner_eq (realms : List String) (token : Token) :
    realmsWithOwner realms token =
      realms ++ (token.owner.toList.map Owner.realm).filter (· ∉ realms) := by
  unfold realmsWithOwner
  cases token.owner with
  | none => simp
  | some owner => by_cases h : owner.realm ∈ realms <;> simp [h]

theorem Token.foldl_withInfo (pairs : List (String × String)) (token : Token) :
    pairs.foldl (fun token (key, value) => token.withInfo key value) token =
      { token with
        info := pairs.foldl (fun info (key, value) => info.insert key value) token.info } := by
  induction pairs generalizing token with
  | nil => rfl
  | cons pair pairs ih => exact ih (token.withInfo pair.1 pair.2)

/-- The plan of a change aims at its result. -/
theorem Change.resultOn_effect (c : Change) (token : Token) :
    (c.plan token).effect.resultOn token = c.intended token := by
  cases c with
  | setRealms realms => rw [intended, ← realmsWithOwner_eq]; rfl
  | disable =>
    cases hactive : token.active with
    | false =>
      simp only [plan, intended, hactive, Bool.false_eq_true, if_false, Effect.resultOn]
      rw [← hactive]
    | true => simp only [plan, intended, hactive, if_true, Effect.resultOn]
  | delete => rfl
  | unassign =>
    cases howner : token.owner with
    | none =>
      simp only [plan, intended, Token.isAssigned, howner, Option.isSome_none, Bool.false_eq_true,
        if_false, Effect.resultOn]
      rw [← howner]
    | some owner =>
      simp only [plan, intended, Token.isAssigned, howner, Option.isSome_some, if_true,
        Effect.resultOn]
  | setDescription description => rfl
  | setInfo pairs => exact congrArg some (Token.foldl_withInfo pairs token)
  | deleteInfo keys => rfl

/-! ## Carrying a plan out -/

namespace Effect

variable {effect : Effect} {store : Store} {token : Token}

/-- Whether a store is kept in a file does not change. -/
theorem file_carryOut_eq_none_iff (effect : Effect) (serial : String) (store : Store) :
    (effect.carryOut serial store).2.file = .none ↔ store.file = .none := by
  cases effect with
  | none => rfl
  | save token => exact store.file_save_eq_none_iff token
  | remove => exact store.file_remove_eq_none_iff serial

/-- An effect on a stored token gives its result, or it fails and leaves all tokens alone. -/
theorem carryOut_cases (hget : store.get? token.serial = some token)
    (hserial : ∀ saved, effect = .save saved → saved.serial = token.serial) :
    (∃ store', effect.carryOut token.serial store = (.ok (), store') ∧
      store'.get? token.serial = effect.resultOn token ∧ effect.error? store 0 = .none) ∨
    ∃ e store', effect.carryOut token.serial store = (.error e, store') ∧
      Store.AgreesOutside [] store' store ∧ effect.error? store 0 = some e := by
  cases effect with
  | none => exact .inl ⟨store, rfl, hget, rfl⟩
  | save saved =>
    rw [carryOut, error?]
    rcases store.save_cases saved with ⟨realm, hunknown, heq⟩ | ⟨hnone, hattempted⟩
    · rw [hunknown]
      exact .inr ⟨_, _, heq, .refl _ _, rfl⟩
    rw [hnone]
    rcases hattempted.ok_or_error with ⟨store', heq, htokens, haccepted⟩ | ⟨store', heq, hagree,
      hrefused⟩
    · refine .inl ⟨store', heq, ?_, if_neg (by rw [haccepted]; exact Bool.false_ne_true)⟩
      rw [Store.get?, htokens, TokenTable.get?_insert, if_pos (hserial saved rfl), resultOn]
    · exact .inr ⟨_, store', heq, hagree, if_pos hrefused⟩
  | remove =>
    rw [carryOut, error?]
    rcases store.remove_cases token.serial with ⟨hnone, -⟩ | ⟨stored, -, hattempted⟩
    · cases hnone.symm.trans hget
    rcases hattempted.ok_or_error with ⟨store', heq, htokens, haccepted⟩ | ⟨store', heq, hagree,
      hrefused⟩
    · refine .inl ⟨store', heq, ?_, if_neg (by rw [haccepted]; exact Bool.false_ne_true)⟩
      rw [Store.get?, htokens, TokenTable.get?_erase, if_pos rfl, resultOn]
    · exact .inr ⟨_, store', heq, hagree, if_pos hrefused⟩

/-- What the file of the store says to later attempts is what it would have said after those of an
effect on a stored token. -/
theorem refuses_carryOut (hget : store.get? token.serial = some token) (n : Nat) :
    (effect.carryOut token.serial store).2.refuses n =
      store.refuses (n + effect.attempts store) := by
  cases effect with
  | none => rfl
  | save saved =>
    rw [carryOut, attempts]
    rcases store.save_cases saved with ⟨realm, hunknown, heq⟩ | ⟨hnone, hattempted⟩
    · rw [heq, hunknown]
      rfl
    · rw [hattempted.refuses_eq, hnone]
  | remove =>
    rw [carryOut, attempts]
    rcases store.remove_cases token.serial with ⟨hnone, -⟩ | ⟨stored, -, hattempted⟩
    · cases hnone.symm.trans hget
    · exact hattempted.refuses_eq n

/-- Why an effect fails depends on the known realms and on what the file says. -/
theorem error?_congr (effect : Effect) {a b : Store} {m n : Nat} (hrealms : a.realms = b.realms)
    (hrefuses : a.refuses m = b.refuses n) : effect.error? a m = effect.error? b n := by
  cases effect <;> simp only [error?, Store.knowsRealm, hrealms, hrefuses]

theorem attempts_congr {a b : Store} (hrealms : a.realms = b.realms) :
    effect.attempts a = effect.attempts b := by
  cases effect <;> simp only [attempts, Store.knowsRealm, hrealms]

theorem isHindered_congr {a b : Store} (h : a.realms = b.realms) :
    effect.IsHindered a ↔ effect.IsHindered b := by
  cases effect <;> simp only [IsHindered, Store.knowsRealm, h]

/-- Without a file an effect fails exactly if it is hindered. -/
theorem error?_eq_none_iff (effect : Effect) (hfile : store.file = .none) (n : Nat) :
    effect.error? store n = .none ↔ ¬effect.IsHindered store := by
  have hrefuses := Store.refuses_of_file_eq_none hfile n
  cases effect with
  | none => exact iff_of_true rfl not_false
  | save saved =>
    simp only [error?, IsHindered, hrefuses, Bool.false_eq_true, if_false]
    cases hfind : saved.realms.find? fun realm => !store.knowsRealm realm with
    | none =>
      have hknown := Store.find?_not_knowsRealm_eq_none_iff.1 hfind
      refine iff_of_true rfl ?_
      rintro ⟨realm, hmem, hunknown⟩
      cases (hknown realm hmem).symm.trans hunknown
    | some realm =>
      have hunknown := List.find?_some hfind
      refine iff_of_false nofun (not_not_intro ⟨realm, List.mem_of_find?_eq_some hfind, ?_⟩)
      simpa using hunknown
  | remove => simp [error?, IsHindered, hrefuses]

end Effect

/-! ## The step of a change -/

/-- The line that tells of a failure. -/
def Outcome.complaint (outcome : Outcome) : String :=
  Text.line ("Failed to process token " ++ outcome.serial ++ ": " ++ outcome.detail)

namespace Performer

theorem performer_changeStep (p : Performer) (c : Change) (store : Store) (token : Token) :
    (p.changeStep c store token).performer = p := by
  unfold changeStep
  dsimp only
  split <;> rfl

/-- The step of a change on a stored token: it is done and told in the results, or it has failed for
a reason that is told in the notes, and all tokens are as they were. -/
theorem changeStep_cases (p : Performer) (c : Change) {store : Store} {token : Token}
    (hget : store.get? token.serial = some token) :
    ((p.changeStep c store token).outcome =
        ⟨token.serial, .succeeded, (c.plan token).detail⟩ ∧
      (p.changeStep c store token).outputs = (c.plan token).status.flatMap Output.resultLine ∧
      (p.changeStep c store token).store.get? token.serial = c.intended token ∧
      (c.plan token).effect.error? store 0 = none) ∨
    ∃ e : StoreError,
      (p.changeStep c store token).outcome = ⟨token.serial, .failed, e.message⟩ ∧
      (p.changeStep c store token).outputs =
        [.note (.text (p.changeStep c store token).outcome.complaint)] ∧
      Store.AgreesOutside [] (p.changeStep c store token).store store ∧
      (c.plan token).effect.error? store 0 = some e := by
  unfold changeStep
  dsimp only
  rcases Effect.carryOut_cases hget (fun _ h => Change.serial_of_save h) with
    ⟨store', heq, hresult, hnone⟩ | ⟨e, store', heq, hagree, hsome⟩
  · rw [heq]
    exact .inl ⟨rfl, rfl, hresult.trans (c.resultOn_effect token), hnone⟩
  · rw [heq]
    exact .inr ⟨e, rfl, rfl, hagree, hsome⟩

end Performer

end TokenInventory
