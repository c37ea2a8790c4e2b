import TokenInventory.Proofs.Selection.Batch
import TokenInventory.Proofs.Text.ByteOrder

/-!
# Scans of a store that others change

Between two batches of a scan anybody may save and remove tokens. A `SharedScan` keeps the answers
of the scan and the stores there were from its first question on. Its invariant (`Sound`) ties the
cursor to the serials returned: they ascend up to the cursor, and a serial that every store so far
holds and admits is either among them or still ahead of a scan that goes on. `sound_move` shows
that every move keeps it, whatever the others do.

`interleaved_scan` is the result: batches hold what is admitted when they are fetched, no serial
comes twice, the end is final, and at the end nothing that was there all the time is missing.
-/

namespace TokenInventory

open TokenTable (IsAfter)

/-- What happens while a store is scanned. -/
inductive ScanMove
  /-- The scan is asked for its next batch. -/
  | next
  /-- Somebody saves a token. -/
  | save (token : Token)
  /-- Somebody removes the token with a serial. -/
  | remove (serial : String)

/-- What a scan answered, and the store it was asked about. -/
structure ScanAnswer where
  store : Store
  batch : Option (List Token)

/-- A scan of a store that others change. -/
structure SharedScan where
  scan : Scan
  store : Store
  /-- The answers so far in their order. -/
  answers : List ScanAnswer := []
  /-- The stores there were from the first question on. -/
  stores : List Store := []

namespace SharedScan

/-- The others change the store. -/
def change (s : SharedScan) (store : Store) : SharedScan :=
  { s with store, stores := if s.answers = [] then s.stores else s.stores ++ [store] }

/-- Makes a move. A save or a removal that fails is a move too. -/
def move (s : SharedScan) : ScanMove → SharedScan
  | .next =>
    let (batch, scan) := s.scan.next s.store
    { s with
      scan
      answers := s.answers ++ [⟨s.store, batch⟩]
      stores := s.stores ++ [s.store] }
  | .save token => s.change (s.store.save token).2
  | .remove serial => s.change (s.store.remove serial).2

/-- Makes one move after the other. -/
def run (s : SharedScan) (moves : List ScanMove) : SharedScan :=
  moves.foldl move s

/-- A scan in chunks that has not been asked yet. -/
def start (store : Store) (admission : Admission) (size : ChunkSize) : SharedScan where
  scan := { admission, chunkSize := some size }
  store := store

/-- The tokens of all batches. -/
def tokens (s : SharedScan) : List Token :=
  s.answers.flatMap fun a => a.batch.getD []

/-- The serials of all batches. -/
def serials (s : SharedScan) : List String :=
  s.tokens.map Token.serial

/-- Whether a store holds a token with a serial and admits it. -/
def Offers (admission : Admission) (serial : String) (store : Store) : Prop :=
  ∃ token, store.get? serial = some token ∧ admission.admits token = true

/-- The invariant of a scan in chunks, whatever others do to the store. -/
structure Sound (admission : Admission) (size : ChunkSize) (s : SharedScan) : Prop where
  admission_eq : s.scan.admission = admission
  chunkSize_eq : s.scan.chunkSize = some size
  batches : ∀ a ∈ s.answers, ∀ batch, a.batch = some batch → batch.length ≤ size.val ∧
    ∀ token ∈ batch, a.store.get? token.serial = some token ∧ admission.admits token = true
  ascending : s.serials.Pairwise (· < ·)
  /-- The cursor is the last serial returned. -/
  cursor_eq : s.scan.cursor = s.serials.getLast?
  isDone_of_none : ∀ a ∈ s.answers, a.batch = none → s.scan.isDone = true
  none_after_none : s.answers.Pairwise fun a b => a.batch = none → b.batch = none
  /-- What every store so far offers is returned or still ahead. -/
  covered : ∀ serial, (∀ store ∈ s.stores, Offers admission serial store) →
    serial ∈ s.serials ∨ s.scan.isDone = false ∧ IsAfter s.scan.cursor serial

variable {admission : Admission} {size : ChunkSize} {s : SharedScan}

theorem sound_start (store : Store) (admission : Admission) (size : ChunkSize) :
    (start store admission size).Sound admission size where
  admission_eq := rfl
  chunkSize_eq := rfl
  batches := by simp [start]
  ascending := .nil
  cursor_eq := rfl
  isDone_of_none := by simp [start]
  none_after_none := .nil
  covered := fun _ _ => .inr ⟨rfl, by simp [start, IsAfter]⟩

theorem sound_change (h : s.Sound admission size) (store : Store) :
    (s.change store).Sound admission size where
  admission_eq := h.admission_eq
  chunkSize_eq := h.chunkSize_eq
  batches := h.batches
  ascending := h.ascending
  cursor_eq := h.cursor_eq
  isDone_of_none := h.isDone_of_none
  none_after_none := h.none_after_none
  covered := fun serial hall => h.covered serial fun st hst => hall st <| by
    unfold change
    split_ifs
    · exact hst
    · exact List.mem_append_left _ hst

/-- The serials returned so far do not exceed the cursor. -/
theorem Sound.lt_of_isAfter (h : s.Sound admission size) {serial : String}
    (hafter : IsAfter s.scan.cursor serial) {r : String} (hr : r ∈ s.serials) : r < serial := by
  have hsorted := h.ascending
  cases hlast : s.serials.getLast? with
  | none => rw [List.getLast?_eq_none_iff.1 hlast] at hr; cases hr
  | some last =>
    have hlt : last < serial := hafter last (by rw [h.cursor_eq, hlast, Option.mem_some_iff])
    rw [← List.dropLast_append_getLast? last hlast] at hr hsorted
    rcases List.mem_append.1 hr with hr | hr
    · exact ((List.pairwise_append.1 hsorted).2.2 r hr last (List.mem_singleton_self _)).trans hlt
    · exact List.mem_singleton.1 hr ▸ hlt

/-- A serial that was offered all the time is among those returned, or the scan goes on and the
token is among those that are left. -/
theorem Sound.returned_or_left (h : s.Sound admission size) {serial : String}
    (hall : ∀ store ∈ s.stores ++ [s.store], Offers admission serial store) :
    serial ∈ s.serials ∨ s.scan.isDone = false ∧
      ∃ token ∈ s.store.fetch s.scan.admission s.scan.cursor none, token.serial = serial := by
  have hbefore := h.covered serial fun store hs => hall store (List.mem_append_left _ hs)
  refine hbefore.imp_right fun ⟨hdone, hafter⟩ => ?_
  obtain ⟨token, hget, hadmits⟩ :=
    hall s.store (List.mem_append_right _ (List.mem_singleton_self _))
  have hserial : token.serial = serial := s.store.tokens.keyed _ _ hget
  refine ⟨hdone, token, Store.mem_fetch_iff.2 ⟨?_, ?_, ?_⟩, hserial⟩
  · rwa [hserial]
  · rwa [h.admission_eq]
  · rwa [hserial]

/-- The scan with one more answer, after which it stands as `scan`. -/
def answered (s : SharedScan) (batch : Option (List Token)) (scan : Scan) : SharedScan :=
  { s with
    scan
    answers := s.answers ++ [⟨s.store, batch⟩]
    stores := s.stores ++ [s.store] }

theorem serials_answered (batch : Option (List Token)) (scan : Scan) :
    (s.answered batch scan).serials = s.serials ++ (batch.getD []).map Token.serial := by
  simp [serials, tokens, answered]

theorem forall_mem_answered {property : ScanAnswer → Prop} {batch : Option (List Token)}
    {scan : Scan} (hold : ∀ a ∈ s.answers, property a) (hnew : property ⟨s.store, batch⟩) :
    ∀ a ∈ (s.answered batch scan).answers, property a :=
  List.forall_mem_append.2 ⟨hold, List.forall_mem_singleton.2 hnew⟩

theorem pairwise_answered {relation : ScanAnswer → ScanAnswer → Prop}
    {batch : Option (List Token)} {scan : Scan} (hold : s.answers.Pairwise relation)
    (hnew : ∀ a ∈ s.answers, relation a ⟨s.store, batch⟩) :
    (s.answered batch scan).answers.Pairwise relation := by
  refine List.pairwise_append.2 ⟨hold, List.pairwise_singleton _ _, fun a ha b hb => ?_⟩
  rw [List.mem_singleton.1 hb]
  exact hnew a ha

theorem sound_answered_none (h : s.Sound admission size)
    (hend : s.scan.isDone = true ∨ s.store.fetch s.scan.admission s.scan.cursor none = []) :
    (s.answered none { s.scan with isDone := true }).Sound admission size := by
  have hserials : (s.answered none { s.scan with isDone := true }).serials = s.serials :=
    (serials_answered _ _).trans (List.append_nil _)
  refine ⟨h.admission_eq, h.chunkSize_eq, forall_mem_answered h.batches fun _ hbatch => ?_,
    hserials ▸ h.ascending, hserials ▸ h.cursor_eq, fun _ _ _ => rfl,
    pairwise_answered h.none_after_none fun _ _ _ => rfl, fun serial hall => ?_⟩
  · cases hbatch
  · rw [hserials]
    refine .inl ((h.returned_or_left hall).resolve_right fun ⟨hdone, token, hmem, _⟩ => ?_)
    rcases hend with hend | hend
    · exact absurd (hdone.symm.trans hend) Bool.false_ne_true
    -- a serial ahead that is still offered would have been fetched
    · rw [hend] at hmem
      cases hmem

theorem sound_answered_some (h : s.Sound admission size) (hdone : s.scan.isDone = false)
    {batch : List Token} {last : Token}
    (hbatch : s.store.fetch s.scan.admission s.scan.cursor (some size.val) = batch)
    (hlast : batch.getLast? = some last) :
    (s.answered (some batch) { s.scan with
      isDone := decide (batch.length < size.val)
      cursor := some last.serial }).Sound admission size := by
  have hsorted := s.store.pairwise_fetch s.scan.admission s.scan.cursor (some size.val)
  have hmem : ∀ token ∈ batch, s.store.get? token.serial = some token ∧
      s.scan.admission.admits token = true ∧ IsAfter s.scan.cursor token.serial :=
    fun token ht => Store.mem_fetch_iff.1 (Store.fetch_subset (hbatch ▸ ht))
  rw [hbatch] at hsorted
  have hnone : ∀ a ∈ s.answers, a.batch ≠ none := fun a ha hn =>
    Bool.false_ne_true (hdone.symm.trans (h.isDone_of_none a ha hn))
  refine ⟨h.admission_eq, h.chunkSize_eq, forall_mem_answered h.batches fun b hb => ?_, ?_, ?_,
    forall_mem_answered (fun a ha hn => absurd hn (hnone a ha)) fun hn => ?_,
    pairwise_answered h.none_after_none fun a ha hn => absurd hn (hnone a ha),
    fun serial hall => ?_⟩
  · obtain rfl := Option.some.inj hb
    refine ⟨hbatch ▸ List.length_take_le _ _, fun token ht => ?_⟩
    exact ⟨(hmem token ht).1, h.admission_eq ▸ (hmem token ht).2.1⟩
  · rw [serials_answered]
    refine List.pairwise_append.2 ⟨h.ascending, List.pairwise_map.2 hsorted, ?_⟩
    intro r hr t ht
    obtain ⟨token, htoken, rfl⟩ := List.mem_map.1 ht
    exact h.lt_of_isAfter (hmem token htoken).2.2 hr
  · rw [serials_answered]
    simp [answered, hlast]
  · cases hn
  · rw [serials_answered]
    rcases h.returned_or_left hall with hr | ⟨-, token, hleft, rfl⟩
    · exact .inl (List.mem_append_left _ hr)
    · subst hbatch
      rcases Store.mem_fetch_or_isAfter hlast hleft with hnow | ⟨hfull, hafter⟩
      · exact .inl (List.mem_append_right _ (List.mem_map_of_mem hnow))
      · exact .inr ⟨decide_eq_false (Nat.not_lt.2 hfull), hafter⟩

/-- Every move keeps the invariant. -/
theorem sound_move (h : s.Sound admission size) (m : ScanMove) :
    (s.move m).Sound admission size := by
  cases m with
  | save token => exact sound_change h _
  | remove serial => exact sound_change h _
  | next =>
    have hmove : s.move .next = s.answered (s.scan.next s.store).1 (s.scan.next s.store).2 := rfl
    rw [hmove]
    rcases Scan.next_cases h.chunkSize_eq s.store with ⟨hend, heq⟩ | ⟨hdone, last, hlast, heq⟩
    · rw [heq]
      exact sound_answered_none h hend
    · rw [heq]
      exact sound_answered_some h hdone rfl hlast

theorem sound_run (h : s.Sound admission size) (moves : List ScanMove) :
    (s.run moves).Sound admission size := by
  induction moves generalizing s with
  | nil => exact h
  | cons m moves ih => exact ih (sound_move h m)

end SharedScan

/-- Whatever others do to the store between two batches of a scan in chunks: a batch has at most as
many tokens as a chunk, all of them stored and admitted when it is fetched; the serials of all
batches ascend strictly in the order of their bytes; after the end comes nothing but the end; and
once the end is reached, every serial that each store from the first fetch on held and admitted has
been returned exactly once. -/
theorem interleaved_scan (store : Store) (admission : Admission) (size : ChunkSize)
    (moves : List ScanMove) :
    let s := (SharedScan.start store admission size).run moves
    (∀ a ∈ s.answers, ∀ batch, a.batch = some batch → batch.length ≤ size.val ∧
      ∀ token ∈ batch, a.store.get? token.serial = some token ∧ admission.admits token = true) ∧
    (s.serials.map Text.utf8).Pairwise (· < ·) ∧
    (s.answers.Pairwise fun a b => a.batch = none → b.batch = none) ∧
    ((∃ a ∈ s.answers, a.batch = none) → ∀ serial,
      (∀ st ∈ s.stores, SharedScan.Offers admission serial st) → s.serials.count serial = 1) := by
  intro s
  have h : s.Sound admission size := SharedScan.sound_run (SharedScan.sound_start _ _ _) moves
  refine ⟨h.batches, ?_, h.none_after_none, ?_⟩
  · exact List.pairwise_map.2 (h.ascending.imp fun hlt => Text.utf8_lt_iff.2 hlt)
  · rintro ⟨a, ha, hnone⟩ serial hall
    have hdone := h.isDone_of_none a ha hnone
    have hnodup : s.serials.Nodup := h.ascending.imp fun hlt => hlt.ne
    refine List.count_eq_one_of_mem hnodup ((h.covered serial hall).resolve_right fun hahead => ?_)
    exact Bool.false_ne_true (hahead.1.symm.trans hdone)

/-- Between the batches a token that was returned is removed, and others are saved behind the cursor
and ahead of it. The scan goes on to its end and stays there, although one more token is saved. -/
theorem interleaved_scan_end :
    let store : Store :=
      { tokens := (TokenTable.empty.insert { serial := "B1", tokenType := "hotp" }).insert
          { serial := "E5", tokenType := "hotp" }
        users := []
        realms := .empty }
    let moves : List ScanMove :=
      [.next, .remove "B1", .save { serial := "A0", tokenType := "hotp" },
        .save { serial := "C3", tokenType := "totp" }, .next, .next, .next,
        .save { serial := "F6", tokenType := "hotp" }, .next]
    let s := (SharedScan.start store {} ⟨1, by decide⟩).run moves
    s.answers.map (fun a => a.batch.map fun batch => batch.map Token.serial) =
        [some ["B1"], some ["C3"], some ["E5"], none, none] ∧
      s.serials.count "E5" = 1 := by
  intro store moves s
  have hanswers : s.answers.map (fun a => a.batch.map fun batch => batch.map Token.serial) =
      [some ["B1"], some ["C3"], some ["E5"], none, none] := by decide +kernel
  obtain ⟨-, -, -, hreturned⟩ := interleaved_scan store {} ⟨1, by decide⟩ moves
  refine ⟨hanswers, hreturned ?_ "E5" ?_⟩
  · have hend : none ∈ s.answers.map fun a => a.batch.map fun batch => batch.map Token.serial := by
      rw [hanswers]
      decide
    obtain ⟨a, ha, hnone⟩ := List.mem_map.1 hend
    exact ⟨a, ha, Option.map_eq_none_iff.1 hnone⟩
  · have hoffers : s.stores.all (fun st => (st.get? "E5").any ({} : Admission).admits) = true := by
      decide +kernel
    intro st hst
    exact (Option.any_eq_true _ _).1 (List.all_eq_true.1 hoffers st hst)

end TokenInventory
