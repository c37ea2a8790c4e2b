import TokenInventory.Store.Admission

/-!
# Scans

A scan goes once through the admitted tokens of a store, in ascending order of their serials.
Without a chunk size it takes them in one batch. With one it takes batches of at most that many
tokens and goes on after the last serial it has seen, so the store may change between two batches.
-/

namespace TokenInventory

/-- A number of tokens, at least one. -/
abbrev ChunkSize : Type :=
  { n : Nat // 0 < n }

/-- How far a scan has come. -/
structure Scan where
  admission : Admission
  chunkSize : Option ChunkSize
  /-- The last serial seen. -/
  cursor : Option String := none
  isDone : Bool := false

namespace Scan

/-- The next batch of tokens, or `none` once the scan is over. -/
def next (scan : Scan) (store : Store) : Option (List Token) × Scan :=
  if scan.isDone then (none, scan)
  else
    match scan.chunkSize with
    | none => (some (store.fetch scan.admission none none), { scan with isDone := true })
    | some size =>
      let batch := store.fetch scan.admission scan.cursor (some size.val)
      let isDone := batch.length < size.val
      match batch.getLast? with
      | none => (none, { scan with isDone })
      | some last => (some batch, { scan with isDone, cursor := some last.serial })

end Scan

end TokenInventory
