import TokenInventory.Proofs.Run.Results
import TokenInventory.Run.Import

/-!
# Imports and their channel

An import writes a line for every token before it does anything with it. Once the channel is broken
it does nothing more (`foldl_updateToken_of_isBroken`, `foldl_addToken_of_isBroken`). So as long as
the channel is not broken the checks for this can be left out (`updateToken_eq`, `addToken_eq`), and
a channel without a limit stays as it is (`HasOpenChannel`).
-/

namespace TokenInventory

open KeyContainer (PackagedToken)

namespace ImportProgress

variable {p : ImportProgress}

/-- Whether a token that was saved counts or is noted does not matter to the store. -/
theorem store_save_then {token : Token} {serial : String} {complaint : StoreError → String} :
    (match p.save token with
      | (.ok (), p) => p.succeed
      | (.error e, p) => p.fail serial (complaint e)).store = (p.store.save token).2 := by
  split <;> next hsave => exact (congrArg (·.2.store) hsave).symm

/-- Whether the channel of the results takes everything. -/
structure HasOpenChannel (p : ImportProgress) : Prop where
  limit_eq : p.transcript.limit = none
  isBroken_eq : p.isBroken = false

namespace HasOpenChannel

theorem write (h : p.HasOpenChannel) (outputs : List Output) : (p.write outputs).HasOpenChannel :=
  have hopen := Transcript.isBroken_writeAll h.limit_eq h.isBroken_eq outputs
  ⟨hopen.1, hopen.2⟩

theorem succeed (h : p.HasOpenChannel) : p.succeed.HasOpenChannel :=
  ⟨h.limit_eq, h.isBroken_eq⟩

theorem fail (h : p.HasOpenChannel) (serial complaint : String) :
    (p.fail serial complaint).HasOpenChannel := by
  have hnoted : ({ p with summary := { p.summary with failed := p.summary.failed ++ [serial] } } :
    ImportProgress).HasOpenChannel := ⟨h.limit_eq, h.isBroken_eq⟩
  exact hnoted.write _

/-- A token is saved, and then it counts or is noted. -/
theorem save_then (h : p.HasOpenChannel) {token : Token} {serial : String}
    {complaint : StoreError → String} :
    (match p.save token with
      | (.ok (), p) => p.succeed
      | (.error e, p) => p.fail serial (complaint e)).HasOpenChannel := by
  have hsaved : (p.save token).2.HasOpenChannel := ⟨h.limit_eq, h.isBroken_eq⟩
  split <;> next heq =>
    rw [heq] at hsaved
    first | exact hsaved.succeed | exact hsaved.fail _ _

end HasOpenChannel

end ImportProgress

variable {p : ImportProgress} {entry : Entry} {entries : List Entry} {token : PackagedToken}
  {tokens : List PackagedToken}

/-! ## Updating tokens -/

/-- What is written for a stored token before it is updated. -/
def updateLine (entry : Entry) : List Output :=
  Output.resultLine ("Updating token " ++ entry.serial ++ ".")

theorem updateToken_of_isBroken (h : p.isBroken = true) (entry : Entry) : updateToken p entry = p :=
  if_pos h

/-- After an update that could be told in the results, the checks of the channel have made no
difference. -/
theorem updateToken_eq (h : (updateToken p entry).isBroken = false) :
    p.isBroken = false ∧ updateToken p entry =
      match p.store.get? entry.serial with
      | none => p.fail entry.serial ("Can not find token " ++ entry.serial ++ ". Not updating.")
      | some token => applyEntry (p.write (updateLine entry)) entry token := by
  cases hopen : p.isBroken with
  | true =>
    rw [updateToken_of_isBroken hopen, hopen] at h
    cases h
  | false =>
    refine ⟨rfl, ?_⟩
    unfold updateToken at h ⊢
    dsimp only at h ⊢
    rw [hopen, if_neg Bool.false_ne_true] at h ⊢
    cases hget : p.store.get? entry.serial with
    | none => rfl
    | some token =>
      simp only [hget] at h ⊢
      split at h
      · next hwritten => cases hwritten.symm.trans h
      · next hwritten => exact if_neg hwritten

/-- An entry is applied to its token, or the store stays as it is. -/
theorem updateToken_cases (p : ImportProgress) (entry : Entry) :
    (updateToken p entry).store = p.store ∨
      ∃ token, p.store.get? entry.serial = some token ∧
        updateToken p entry = applyEntry (p.write (updateLine entry)) entry token := by
  unfold updateToken
  dsimp only
  split
  · exact .inl rfl
  · cases hget : p.store.get? entry.serial with
    | none => exact .inl rfl
    | some token =>
      dsimp only
      split
      · exact .inl rfl
      · exact .inr ⟨token, rfl, rfl⟩

theorem foldl_updateToken_of_isBroken (h : p.isBroken = true) (entries : List Entry) :
    entries.foldl updateToken p = p := by
  induction entries with
  | nil => rfl
  | cons entry entries ih => rw [List.foldl_cons, updateToken_of_isBroken h, ih]

namespace ImportProgress.HasOpenChannel

theorem applyEntry (h : p.HasOpenChannel) (entry : Entry) (token : Token) :
    (applyEntry p entry token).HasOpenChannel := by
  unfold TokenInventory.applyEntry
  dsimp only
  split
  · exact h.fail _ _
  · exact h.save_then

theorem updateToken (h : p.HasOpenChannel) (entry : Entry) :
    (updateToken p entry).HasOpenChannel := by
  unfold TokenInventory.updateToken
  dsimp only
  rw [if_neg (Bool.eq_false_iff.1 h.isBroken_eq)]
  cases p.store.get? entry.serial with
  | none => exact h.fail _ _
  | some token =>
    have hwritten := h.write (updateLine entry)
    unfold updateLine at hwritten
    dsimp only
    rw [if_neg (Bool.eq_false_iff.1 hwritten.isBroken_eq)]
    exact hwritten.applyEntry _ _

theorem foldl_updateToken (h : p.HasOpenChannel) (entries : List Entry) :
    (entries.foldl TokenInventory.updateToken p).HasOpenChannel :=
  List.foldlRecOn entries _ h fun _ hq entry _ => hq.updateToken entry

end ImportProgress.HasOpenChannel

/-! ## Adding tokens -/

/-- What is written for a token before it is added. -/
def importLine (token : PackagedToken) : List Output :=
  Output.resultLine ("Importing token " ++ token.serial)

theorem addToken_of_isBroken (h : p.isBroken = true) (token : PackagedToken) :
    addToken p token = p :=
  if_pos h

/-- After a token whose turn could be told in the results, the checks of the channel have made no
difference. -/
theorem addToken_eq (h : (addToken p token).isBroken = false) : p.isBroken = false ∧
    addToken p token = saveNew (p.write (importLine token)) token.toToken := by
  cases hopen : p.isBroken with
  | true =>
    rw [addToken_of_isBroken hopen, hopen] at h
    cases h
  | false =>
    refine ⟨rfl, ?_⟩
    unfold addToken at h ⊢
    dsimp only at h ⊢
    rw [hopen, if_neg Bool.false_ne_true] at h ⊢
    split at h
    · next hwritten => cases hwritten.symm.trans h
    · next hwritten => exact if_neg hwritten

/-- A token is saved if its serial is new, or the store stays as it is. -/
theorem addToken_cases (p : ImportProgress) (token : PackagedToken) :
    (addToken p token).store = p.store ∨
      addToken p token = saveNew (p.write (importLine token)) token.toToken := by
  unfold addToken
  dsimp only
  split
  · exact .inl rfl
  · split
    · exact .inl rfl
    · exact .inr rfl

theorem foldl_addToken_of_isBroken (h : p.isBroken = true) (tokens : List PackagedToken) :
    tokens.foldl addToken p = p := by
  induction tokens with
  | nil => rfl
  | cons token tokens ih => rw [List.foldl_cons, addToken_of_isBroken h, ih]

namespace ImportProgress.HasOpenChannel

theorem saveNew (h : p.HasOpenChannel) (token : Token) : (saveNew p token).HasOpenChannel := by
  unfold TokenInventory.saveNew
  dsimp only
  split
  · exact h.fail _ _
  · exact h.save_then

theorem addToken (h : p.HasOpenChannel) (token : PackagedToken) :
    (addToken p token).HasOpenChannel := by
  have hwritten := h.write (importLine token)
  unfold TokenInventory.addToken
  dsimp only
  rw [if_neg (Bool.eq_false_iff.1 h.isBroken_eq)]
  unfold importLine at hwritten
  rw [show token.serial = token.toToken.serial from rfl] at hwritten
  rw [if_neg (Bool.eq_false_iff.1 hwritten.isBroken_eq)]
  exact hwritten.saveNew _

theorem foldl_addToken (h : p.HasOpenChannel) (tokens : List PackagedToken) :
    (tokens.foldl TokenInventory.addToken p).HasOpenChannel :=
  List.foldlRecOn tokens _ h fun _ hq token _ => hq.addToken token

end ImportProgress.HasOpenChannel

end TokenInventory
