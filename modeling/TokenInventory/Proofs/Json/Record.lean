import Mathlib.Data.List.Nodup
import TokenInventory.Json.Record
import TokenInventory.Proofs.Json.RoundTrip
import TokenInventory.Proofs.SortedMap

/-!
# Reading records that were written

The fields of a record that is written as an object with different names are found again
(`fields?_obj`). Lists, maps of texts and 64-bit numbers are read back from the values they are
written as, and those values are whole.
-/

namespace TokenInventory

/-- What succeeds for every item of a list succeeds for the list. -/
theorem mapM_eq_pure_map {m : Type → Type} [Monad m] [LawfulMonad m] {α β : Type} {f : α → m β}
    {g : α → β} {l : List α} (h : ∀ a ∈ l, f a = pure (g a)) : l.mapM f = pure (l.map g) := by
  induction l with
  | nil => rfl
  | cons a l ih =>
    rw [List.forall_mem_cons] at h
    rw [List.mapM_cons, h.1, ih h.2, pure_bind, pure_bind]
    rfl

namespace Json

theorem mapM_eq_some_map {α β : Type} {f : α → Option β} {g : α → β} {l : List α}
    (h : ∀ a ∈ l, f a = some (g a)) : l.mapM f = some (l.map g) :=
  mapM_eq_pure_map h

/-! ## Fields -/

theorem member?_of_mem {members : List (String × Json)} (hnodup : (members.map Prod.fst).Nodup)
    {m : String × Json} (hm : m ∈ members) : member? m.1 members = some (some m.2) := by
  have hfilter : members.filter (fun e => e.1 == m.1) = [m] := by
    induction members with
    | nil => cases hm
    | cons e members ih =>
      obtain ⟨hfresh, hnodup⟩ := List.nodup_cons.1 hnodup
      rcases List.mem_cons.1 hm with rfl | hm
      · have hrest : members.filter (fun e => e.1 == m.1) = [] :=
          List.filter_eq_nil_iff.2 fun e he heq =>
            hfresh (eq_of_beq heq ▸ List.mem_map_of_mem he)
        rw [List.filter_cons_of_pos (by exact beq_self_eq_true m.1), hrest]
      · have hne : e.1 ≠ m.1 := fun heq => hfresh (heq ▸ List.mem_map_of_mem hm)
        rw [List.filter_cons_of_neg (by simpa using hne), ih hnodup hm]
  rw [member?, hfilter]

/-- The fields of an object with different names. -/
theorem fields?_obj {names : List String} (hnodup : names.Nodup) {members : List (String × Json)}
    (hnames : members.map Prod.fst = names) :
    fields? names (obj members) = some (members.map fun m => some m.2) := by
  subst hnames
  rw [fields?, List.mapM_map]
  exact mapM_eq_some_map fun m hm => member?_of_mem hnodup hm

/-! ## Values of fields -/

theorem list?_arr {α : Type} {write : α → Json} {read : Json → Option α} {l : List α}
    (h : ∀ a ∈ l, read (write a) = some a) : list? read (arr (l.map write)) = some l := by
  have hmap : l.mapM (read ∘ write) = some (l.map id) := mapM_eq_some_map h
  rw [list?, List.mapM_map, hmap, List.map_id]

theorem list?_ofTexts (texts : List String) : list? text? (ofTexts texts) = some texts :=
  list?_arr fun _ _ => rfl

theorem textMap?_ofTextMap (map : SortedMap String) : textMap? (ofTextMap map) = some map := by
  rw [ofTextMap, textMap?, List.mapM_map, mapM_eq_some_map (g := id), List.map_id, Option.map_some,
    SortedMap.ofList_entries]
  exact fun _ _ => rfl

theorem int64?_ofInt64 (x : Int64) : int64? (ofInt64 x) = some x :=
  Text.int64?_toInt x

theorem nullable?_ofOption {α : Type} {write : α → Json} {read : Json → Option α}
    (h : ∀ a, read (write a) = some a) (hnull : ∀ a, write a ≠ null) (a : Option α) :
    nullable? read (ofOption write a) = some a := by
  cases a with
  | none => rfl
  | some a =>
    rw [ofOption, nullable?, h]
    · rfl
    · exact hnull a

/-! ## Whole values -/

theorem whole_ofInt64 (x : Int64) : Whole (ofInt64 x) := by
  have := x.le_toInt
  have := x.toInt_lt
  exact .int ⟨by omega, by omega⟩

theorem whole_arr_map {α : Type} {write : α → Json} (h : ∀ a, Whole (write a)) (l : List α) :
    Whole (arr (l.map write)) := by
  refine .arr fun item hitem => ?_
  obtain ⟨a, -, rfl⟩ := List.mem_map.1 hitem
  exact h a

theorem whole_ofTexts (texts : List String) : Whole (ofTexts texts) :=
  whole_arr_map .str texts

theorem whole_ofTextMap (map : SortedMap String) : Whole (ofTextMap map) := by
  refine .obj fun m hm => ?_
  obtain ⟨e, -, rfl⟩ := List.mem_map.1 hm
  exact .str e.2

theorem whole_ofOption {α : Type} {write : α → Json} (h : ∀ a, Whole (write a)) (a : Option α) :
    Whole (ofOption write a) := by
  cases a with
  | none => exact .null
  | some a => exact h a

end Json

end TokenInventory
