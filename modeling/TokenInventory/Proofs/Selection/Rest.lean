import Mathlib.Tactic.SplitIfs
import TokenInventory.Proofs.Selection.Batch
import TokenInventory.Proofs.Store.Commit

/-!
# What is left of a scan

The rest of a scan is what it would still return if nobody touched the store. A batch is the
beginning of the rest (`next_some`), and the remainder does not change when the store changes only
in tokens of the batch (`rest_congr`), since they do not come after its last serial. Every batch
takes something away from `left`, so a scan of a store in which only the tokens of past batches
change comes to an end.
-/

namespace TokenInventory.Scan

open TokenTable (IsAfter)

/-- The tokens that a scan of an unchanged store still returns. -/
def rest (scan : Scan) (store : Store) : List Token :=
  if scan.isDone then []
  else store.fetch scan.admission (scan.chunkSize.bind fun _ => scan.cursor) none

/-- A bound on the number of batches to come. -/
def left (scan : Scan) (store : Store) : Nat :=
  (scan.rest store).length + if scan.isDone then 0 else 1

variable {scan scan' : Scan} {store store' : Store} {batch : List Token}

theorem next_of_not_chunked (h : scan.chunkSize = none) (hdone : scan.isDone = false)
    (store : Store) : scan.next store =
      (some (store.fetch scan.admission none none), { scan with isDone := true }) := by
  simp only [next, h, hdone, Bool.false_eq_true, if_false]

theorem rest_of_isDone (h : scan.isDone = true) (store : Store) : scan.rest store = [] := by
  rw [rest, if_pos h]

theorem rest_of_chunkSize {size : ChunkSize} (h : scan.chunkSize = some size)
    (hdone : scan.isDone = false) (store : Store) :
    scan.rest store = store.fetch scan.admission scan.cursor none := by
  simp only [rest, hdone, Bool.false_eq_true, if_false, h, Option.bind_some]

/-- The scan is over only when nothing is left. -/
theorem rest_eq_nil_of_next (h : scan.next store = (none, scan')) : scan.rest store = [] := by
  cases hdone : scan.isDone with
  | true => exact rest_of_isDone hdone store
  | false =>
    cases hsize : scan.chunkSize with
    | none => cases (next_of_not_chunked hsize hdone store).symm.trans h
    | some size =>
      rcases next_cases hsize store with ⟨hend, -⟩ | ⟨-, last, -, heq⟩
      · rw [rest_of_chunkSize hsize hdone]
        exact hend.resolve_left (hdone ▸ Bool.false_ne_true)
      · cases heq.symm.trans h

/-- How a scan stands after a batch: it is over, or it goes on after the batch's last serial. -/
theorem next_some_cases (h : scan.next store = (some batch, scan')) :
    scan.isDone = false ∧ batch ++ scan'.rest store = scan.rest store ∧
      (scan'.isDone = true ∨ ∃ last, batch.getLast? = some last ∧
        (batch.Pairwise fun a b => a.serial < b.serial) ∧
        ∀ st, scan'.rest st = st.fetch scan.admission (some last.serial) none) := by
  cases hdone : scan.isDone with
  | true => simp only [next, hdone, if_true, Prod.mk.injEq, reduceCtorEq, false_and] at h
  | false =>
    refine ⟨rfl, ?_⟩
    cases hsize : scan.chunkSize with
    | none =>
      obtain ⟨hbatch, rfl⟩ := Prod.mk.inj ((next_of_not_chunked hsize hdone store).symm.trans h)
      refine ⟨?_, .inl rfl⟩
      rw [rest_of_isDone rfl, List.append_nil, ← Option.some.inj hbatch]
      simp only [rest, hdone, Bool.false_eq_true, if_false, hsize, Option.bind_none]
    | some size =>
      rcases next_cases hsize store with ⟨-, heq⟩ | ⟨-, last, hlast, heq⟩
      · cases heq.symm.trans h
      obtain ⟨hbatch, hscan⟩ := Prod.mk.inj (heq.symm.trans h)
      have hsorted := store.pairwise_fetch scan.admission scan.cursor (some size.val)
      have hafter := Store.fetch_after_getLast? hlast
      have htake := store.fetch_some scan.admission scan.cursor size.val
      rw [Option.some.inj hbatch] at hlast hsorted hscan htake
      rw [rest_of_chunkSize hsize hdone]
      by_cases hshort : batch.length < size.val
      · have hdone' : scan'.isDone = true := by rw [← hscan]; exact decide_eq_true hshort
        refine ⟨?_, .inl hdone'⟩
        rw [htake, List.length_take] at hshort
        rw [rest_of_isDone hdone', List.append_nil, htake, List.take_of_length_le (by omega)]
      · have hdone' : scan'.isDone = false := by rw [← hscan]; exact decide_eq_false hshort
        have hsize' : scan'.chunkSize = some size := by rw [← hscan]; exact hsize
        have hrest : ∀ st, scan'.rest st = st.fetch scan.admission (some last.serial) none :=
          fun st => (rest_of_chunkSize hsize' hdone' st).trans (by rw [← hscan])
        refine ⟨?_, .inr ⟨last, hlast, hsorted, hrest⟩⟩
        rw [hrest, hafter, htake, List.take_append_drop]

/-- A batch is the beginning of the rest. -/
theorem next_some (h : scan.next store = (some batch, scan')) :
    batch ++ scan'.rest store = scan.rest store :=
  (next_some_cases h).2.1

/-- Changes of the tokens of a batch do not touch the rest after it. -/
theorem rest_congr (h : scan.next store = (some batch, scan'))
    (hagree : store'.AgreesOutside (batch.map Token.serial) store) :
    scan'.rest store' = scan'.rest store := by
  rcases (next_some_cases h).2.2 with hdone | ⟨last, hlast, hsorted, hrest⟩
  · rw [rest_of_isDone hdone, rest_of_isDone hdone]
  rw [hrest, hrest]
  refine Store.fetch_congr fun s hs => hagree.get?_eq s fun hmem => ?_
  obtain ⟨token, ht, rfl⟩ := List.mem_map.1 hmem
  exact (hs _ rfl).not_ge (Store.serial_le_getLast? hsorted hlast ht)

theorem left_lt (h : scan.next store = (some batch, scan')) :
    scan'.left store < scan.left store := by
  obtain ⟨hdone, hrest, hcases⟩ := next_some_cases h
  rw [left, left, ← hrest, hdone, List.length_append, if_neg Bool.false_ne_true]
  rcases hcases with hdone' | ⟨last, hlast, -, -⟩
  · rw [hdone', if_pos rfl]
    omega
  · have : 0 < batch.length := List.length_pos_of_mem (List.mem_of_getLast? hlast)
    split_ifs <;> omega

theorem left_congr (h : scan.next store = (some batch, scan'))
    (hagree : store'.AgreesOutside (batch.map Token.serial) store) :
    scan'.left store' = scan'.left store := by
  rw [left, left, rest_congr h hagree]

end TokenInventory.Scan
