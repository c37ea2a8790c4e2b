import TokenInventory.Proofs.Store.Table
import TokenInventory.Selection.Scan

/-!
# Batches of a scan

What a store hands out is the listing of the admitted tokens after a serial (`mem_fetch_iff`,
`pairwise_fetch`), cut to a number of them. After the last token of a batch come exactly the tokens
that were cut off (`fetch_after_getLast?`). `Scan.next_cases` lists what asking a scan in chunks for
a batch may give.
-/

namespace TokenInventory

open TokenTable (IsAfter)

namespace Store

variable {store : Store} {admission : Admission} {after : Option String} {limit : Option Nat}

theorem fetch_some (store : Store) (admission : Admission) (after : Option String) (n : Nat) :
    store.fetch admission after (some n) = (store.fetch admission after none).take n :=
  rfl

theorem mem_fetch_iff {token : Token} : token ∈ store.fetch admission after none ↔
    store.get? token.serial = some token ∧ admission.admits token = true ∧
      IsAfter after token.serial := by
  rw [fetch, List.mem_filter, TokenTable.mem_after_iff, TokenTable.mem_toList_iff, and_assoc,
    and_comm (a := IsAfter _ _)]
  rfl

theorem pairwise_fetch (store : Store) (admission : Admission) (after : Option String)
    (limit : Option Nat) :
    (store.fetch admission after limit).Pairwise fun a b => a.serial < b.serial := by
  have h : (store.fetch admission after none).Pairwise fun a b => a.serial < b.serial :=
    (store.tokens.pairwise_after after).filter _
  cases limit with
  | none => exact h
  | some n => exact h.sublist (List.take_sublist n _)

theorem fetch_subset {token : Token} (h : token ∈ store.fetch admission after limit) :
    token ∈ store.fetch admission after none := by
  cases limit with
  | none => exact h
  | some n => exact List.mem_of_mem_take h

/-- What is handed out depends on the tokens with serials after the given one only. -/
theorem fetch_congr {a b : Store} (h : ∀ s, IsAfter after s → a.get? s = b.get? s) :
    a.fetch admission after limit = b.fetch admission after limit := by
  unfold fetch
  rw [TokenTable.after_congr h]

/-- In a listing by ascending serial the last token has the greatest serial. -/
theorem serial_le_getLast? {l : List Token} (h : l.Pairwise fun a b => a.serial < b.serial)
    {last : Token} (hlast : l.getLast? = some last) {token : Token} (ht : token ∈ l) :
    token.serial ≤ last.serial := by
  rw [← List.dropLast_append_getLast? last hlast] at h ht
  rcases List.mem_append.1 ht with ht | ht
  · exact ((List.pairwise_append.1 h).2.2 token ht last (List.mem_singleton_self _)).le
  · rw [List.mem_singleton.1 ht]

/-- After the last of the first `n` tokens come the tokens from number `n` on. -/
theorem fetch_after_getLast? {n : Nat} {last : Token}
    (hlast : (store.fetch admission after (some n)).getLast? = some last) :
    store.fetch admission (some last.serial) none = (store.fetch admission after none).drop n := by
  have hsorted := store.pairwise_fetch admission after none
  have hmem : last ∈ (store.fetch admission after none).take n := List.mem_of_getLast? hlast
  have hafter := (mem_fetch_iff.1 (List.mem_of_mem_take hmem)).2.2
  refine TokenTable.eq_of_mem_iff (store.pairwise_fetch _ _ _)
    (hsorted.sublist (List.drop_sublist n _)) fun token => ⟨fun ht => ?_, fun ht => ?_⟩
  · obtain ⟨hget, hadmits, hlt⟩ := mem_fetch_iff.1 ht
    have hlt : last.serial < token.serial := hlt _ rfl
    have hall : token ∈ store.fetch admission after none :=
      mem_fetch_iff.2 ⟨hget, hadmits, fun c hc => (hafter c hc).trans hlt⟩
    rw [← List.take_append_drop n (store.fetch admission after none)] at hall
    refine (List.mem_append.1 hall).resolve_left fun htake => hlt.not_ge ?_
    exact serial_le_getLast? (store.pairwise_fetch admission after (some n)) hlast htake
  · obtain ⟨hget, hadmits, -⟩ := mem_fetch_iff.1 (List.mem_of_mem_drop ht)
    rw [← List.take_append_drop n (store.fetch admission after none)] at hsorted
    have hlt := (List.pairwise_append.1 hsorted).2.2 last hmem token ht
    exact mem_fetch_iff.2 ⟨hget, hadmits, fun c hc => Option.mem_some_iff.1 hc ▸ hlt⟩

/-- What is not among the first `n` tokens comes after the last of them, and they are `n` tokens:
a short batch leaves nothing behind. -/
theorem mem_fetch_or_isAfter {n : Nat} {last token : Token}
    (hlast : (store.fetch admission after (some n)).getLast? = some last)
    (hmem : token ∈ store.fetch admission after none) :
    token ∈ store.fetch admission after (some n) ∨
      n ≤ (store.fetch admission after (some n)).length ∧
        IsAfter (some last.serial) token.serial := by
  rw [← List.take_append_drop n (store.fetch admission after none)] at hmem
  refine (List.mem_append.1 hmem).imp_right fun hdrop => ⟨?_, ?_⟩
  · have hmore := List.length_pos_of_mem hdrop
    rw [List.length_drop] at hmore
    rw [fetch_some, List.length_take]
    omega
  · rw [← fetch_after_getLast? hlast] at hdrop
    exact (mem_fetch_iff.1 hdrop).2.2

end Store

namespace Scan

/-- What asking a scan in chunks for a batch gives: nothing and the end if it is over or no token
is left, else a batch after whose last serial it goes on unless the batch is short. -/
theorem next_cases {scan : Scan} {size : ChunkSize} (hsize : scan.chunkSize = some size)
    (store : Store) :
    ((scan.isDone = true ∨ store.fetch scan.admission scan.cursor none = []) ∧
      scan.next store = (none, { scan with isDone := true })) ∨
    (scan.isDone = false ∧ ∃ last,
      (store.fetch scan.admission scan.cursor (some size.val)).getLast? = some last ∧
      scan.next store = (some (store.fetch scan.admission scan.cursor (some size.val)),
        { scan with
          isDone :=
            decide ((store.fetch scan.admission scan.cursor (some size.val)).length < size.val)
          cursor := some last.serial })) := by
  unfold next
  cases hdone : scan.isDone with
  | true => exact .inl ⟨.inl rfl, by rw [if_pos rfl, ← hdone]⟩
  | false =>
    simp only [hsize, Bool.false_eq_true, if_false, true_and, false_or]
    cases hlast : (store.fetch scan.admission scan.cursor (some size.val)).getLast? with
    | none =>
      have hnil := List.getLast?_eq_none_iff.1 hlast
      refine .inl ⟨(List.take_eq_nil_iff.1 hnil).resolve_left size.2.ne', ?_⟩
      rw [hnil]
      simp only [List.length_nil, size.2, decide_true]
    | some last => exact .inr ⟨last, rfl, rfl⟩

end Scan

end TokenInventory
