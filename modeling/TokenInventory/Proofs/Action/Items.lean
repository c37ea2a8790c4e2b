import TokenInventory.Action.Basic
import TokenInventory.Proofs.Json.Record
import TokenInventory.Proofs.Text.Blank
import TokenInventory.Proofs.Text.Pieces

/-!
# Parameters that are lists

A parameter of an action may be a list of items, or of pairs of a key and a value. The items of a
list are read from every text that joins them by commas, with any blanks and blank items around them
(`listItems_of_joins`). The pairs of a list are read from the items that they are written as, and a
list is refused exactly if one of its items has no key (`infoPairs_of_joins`).
-/

namespace TokenInventory

open Text

/-! ## Items -/

/-- What an item of a list is: it is not empty and has neither a comma nor blanks at its ends. -/
structure IsItem (item : String) : Prop where
  ne_empty : item ≠ ""
  comma_not_mem : ',' ∉ item.toList
  trim_eq : trim item.toList = item.toList

/-- Whether pieces of a text are the given items with blanks around them, and blank pieces. -/
inductive AreSpread : List (List Char) → List String → Prop
  | nil : AreSpread [] []
  | blank {piece : List Char} {pieces : List (List Char)} {items : List String}
    (hblank : ∀ c ∈ piece, isBlank c = true) (h : AreSpread pieces items) :
    AreSpread (piece :: pieces) items
  | item {piece : List Char} {item : String} {pieces : List (List Char)} {items : List String}
    (hpadded : IsPadded piece item.toList) (h : AreSpread pieces items) :
    AreSpread (piece :: pieces) (item :: items)

/-- Whether a text is items joined by commas, with any blanks and any number of blank items around
them. -/
def Joins (s : String) (items : List String) : Prop :=
  ∃ pieces, AreSpread pieces items ∧ s.toList = [','].intercalate pieces

/-- The items that pieces of a text hold. -/
def heldItems (pieces : List (List Char)) : List String :=
  (pieces.map fun piece => String.ofList (trim piece)).filter (· ≠ "")

theorem listItems_eq (s : String) : listItems s = heldItems (s.toList.splitOn ',') := by
  rw [listItems, splitAll_eq_splitOn, heldItems]

section

variable {piece : List Char} {pieces : List (List Char)} {items : List String}

theorem heldItems_cons_of_blank (h : trim piece = []) :
    heldItems (piece :: pieces) = heldItems pieces :=
  List.filter_cons_of_neg (by simp [h])

theorem heldItems_cons_of_ne_nil (h : trim piece ≠ []) :
    heldItems (piece :: pieces) = String.ofList (trim piece) :: heldItems pieces := by
  have hne : String.ofList (trim piece) ≠ "" := by simpa using h
  exact List.filter_cons_of_pos (decide_eq_true hne)

theorem mem_heldItems_iff {item : String} : item ∈ heldItems pieces ↔
    ∃ piece ∈ pieces, trim piece ≠ [] ∧ String.ofList (trim piece) = item := by
  simp only [heldItems, List.mem_filter, List.mem_map, decide_eq_true_eq]
  constructor
  · rintro ⟨⟨piece, hpiece, rfl⟩, hne⟩
    exact ⟨piece, hpiece, fun hnil => hne (by rw [hnil]), rfl⟩
  · rintro ⟨piece, hpiece, hne, rfl⟩
    refine ⟨⟨piece, hpiece, rfl⟩, fun hempty => hne ?_⟩
    simpa using hempty

theorem AreSpread.heldItems_eq (h : AreSpread pieces items) (hitems : ∀ item ∈ items, IsItem item) :
    heldItems pieces = items := by
  induction h with
  | nil => rfl
  | blank hblank _ ih => rw [heldItems_cons_of_blank (trim_eq_nil_iff.2 hblank), ih hitems]
  | @item piece item _ _ hpadded _ ih =>
    rw [List.forall_mem_cons] at hitems
    have htrim := (isPadded_iff hitems.1.trim_eq).1 hpadded
    rw [heldItems_cons_of_ne_nil, ih hitems.2, htrim, String.ofList_toList]
    rw [htrim]
    simpa using hitems.1.ne_empty

theorem areSpread_heldItems (pieces : List (List Char)) : AreSpread pieces (heldItems pieces) := by
  induction pieces with
  | nil => exact .nil
  | cons piece pieces ih =>
    by_cases hblank : trim piece = []
    · rw [heldItems_cons_of_blank hblank]
      exact .blank (trim_eq_nil_iff.1 hblank) ih
    · rw [heldItems_cons_of_ne_nil hblank]
      exact .item (by rw [String.toList_ofList]; exact isPadded_trim piece) ih

/-- Items without commas are spread over pieces without commas. -/
theorem AreSpread.comma_not_mem (h : AreSpread pieces items)
    (hitems : ∀ item ∈ items, IsItem item) : ∀ piece ∈ pieces, ',' ∉ piece := by
  induction h with
  | nil => exact List.forall_mem_nil _
  | blank hblank _ ih => exact List.forall_mem_cons.2 ⟨not_mem_of_blank hblank rfl, ih hitems⟩
  | item hpadded _ ih =>
    rw [List.forall_mem_cons] at hitems
    have hcomma := (hpadded.mem_iff rfl).not.2 hitems.1.comma_not_mem
    exact List.forall_mem_cons.2 ⟨hcomma, ih hitems.2⟩

end

/-- Items are read from every text that joins them. -/
theorem listItems_of_joins {s : String} {items : List String} (hitems : ∀ item ∈ items, IsItem item)
    (h : Joins s items) : listItems s = items := by
  obtain ⟨pieces, hspread, hs⟩ := h
  rw [listItems_eq]
  by_cases hnil : pieces = []
  · subst hnil
    rw [hs, ← hspread.heldItems_eq hitems]
    rfl
  · rw [splitOn_eq_iff.2 ⟨hnil, hspread.comma_not_mem hitems, hs⟩, hspread.heldItems_eq hitems]

theorem isItem_of_mem_listItems {s item : String} (h : item ∈ listItems s) : IsItem item := by
  rw [listItems_eq, mem_heldItems_iff] at h
  obtain ⟨piece, hpiece, hne, rfl⟩ := h
  refine ⟨fun hempty => hne (by simpa using hempty), ?_, ?_⟩
  · rw [String.toList_ofList]
    exact ((isPadded_trim piece).mem_iff rfl).not.1 (not_mem_of_mem_splitOn hpiece)
  · rw [String.toList_ofList, trim_trim]

/-- The items that are read from a text are those that it joins. -/
theorem listItems_eq_iff {s : String} {items : List String} :
    listItems s = items ↔ (∀ item ∈ items, IsItem item) ∧ Joins s items := by
  constructor
  · rintro rfl
    refine ⟨fun item => isItem_of_mem_listItems, s.toList.splitOn ',', ?_, ?_⟩
    · rw [listItems_eq]
      exact areSpread_heldItems _
    · exact (List.intercalate_splitOn _).symm
  · exact fun h => listItems_of_joins h.1 h.2

/-! ## Pairs -/

/-- What a pair of a list is: the key is not empty and has no colon, and neither of them has a comma
or blanks at its ends. -/
structure IsPair (pair : String × String) : Prop where
  key_ne_empty : pair.1 ≠ ""
  colon_not_mem_key : ':' ∉ pair.1.toList
  comma_not_mem_key : ',' ∉ pair.1.toList
  trim_key : trim pair.1.toList = pair.1.toList
  comma_not_mem_value : ',' ∉ pair.2.toList
  trim_value : trim pair.2.toList = pair.2.toList

/-- The item that a pair is written as. -/
def pairItem (pair : String × String) : String :=
  pair.1 ++ ":" ++ pair.2

/-- Whether an item has no colon, or only blanks before its first colon. -/
def LacksKey (item : List Char) : Prop :=
  ':' ∉ item ∨
    ∃ key value, item = key ++ ':' :: value ∧ ':' ∉ key ∧ ∀ c ∈ key, isBlank c = true

/-- The error that refuses an item. -/
def noPair (item : String) : ParameterError where
  action := "set_tokeninfo"
  reason := .notAPair item

theorem toList_pairItem (pair : String × String) :
    (pairItem pair).toList = pair.1.toList ++ ':' :: pair.2.toList := by
  simp [pairItem]

theorem IsPair.isItem {pair : String × String} (h : IsPair pair) : IsItem (pairItem pair) := by
  obtain ⟨key, value⟩ := pair
  obtain ⟨hne, hcolon, hcomma, hkey, hcomma', hvalue⟩ := h
  refine ⟨?_, ?_, ?_⟩
  · rw [Ne, ← String.toList_inj, toList_pairItem]
    simp
  · rw [toList_pairItem]
    simp [hcomma, hcomma']
  · rw [toList_pairItem, trim_eq_self_iff]
    rw [trim_eq_self_iff] at hkey hvalue
    have hnil : key.toList ≠ [] := by simpa using hne
    refine ⟨?_, ?_⟩
    · rw [List.head?_append_of_ne_nil _ hnil]
      exact hkey.1
    · rw [List.getLast?_append, List.getLast?_cons]
      intro c hc
      cases hlast : value.toList.getLast? with
      | none =>
        rw [hlast] at hc
        cases hc
        rfl
      | some d =>
        rw [hlast] at hc
        cases hc
        exact hvalue.2 _ hlast

theorem infoPair_of_eq_append {item : String} {key value : List Char}
    (hitem : item.toList = key ++ ':' :: value) (hcolon : ':' ∉ key) : infoPair item =
      if trim key = [] then .error (noPair item)
      else .ok (String.ofList (trim key), String.ofList (trim value)) := by
  rw [infoPair, hitem, splitFirst?_append hcolon]
  rfl

theorem infoPair_pairItem {pair : String × String} (h : IsPair pair) :
    infoPair (pairItem pair) = .ok pair := by
  have hkey : pair.1.toList ≠ [] := by simpa using h.key_ne_empty
  rw [infoPair_of_eq_append (toList_pairItem pair) h.colon_not_mem_key, h.trim_key, if_neg hkey,
    h.trim_value, String.ofList_toList, String.ofList_toList]

/-- An item that has a key before its first colon is a pair, and an item without one is refused. -/
theorem infoPair_cases (item : String) :
    (¬LacksKey item.toList ∧ ∃ key value, item.toList = key ++ ':' :: value ∧ ':' ∉ key ∧
        trim key ≠ [] ∧
        infoPair item = .ok (String.ofList (trim key), String.ofList (trim value))) ∨
      (LacksKey item.toList ∧ infoPair item = .error (noPair item)) := by
  by_cases hmem : ':' ∈ item.toList
  · obtain ⟨key, value, heq, hcolon⟩ := List.eq_append_cons_of_mem hmem
    rw [infoPair_of_eq_append heq hcolon]
    by_cases hkey : trim key = []
    · exact .inr ⟨.inr ⟨key, value, heq, hcolon, trim_eq_nil_iff.1 hkey⟩, if_pos hkey⟩
    · refine .inl ⟨?_, key, value, heq, hcolon, hkey, if_neg hkey⟩
      rintro (hnot | ⟨key', value', heq', hcolon', hblank⟩)
      · exact hnot hmem
      · obtain ⟨rfl, -⟩ := append_separator_inj hcolon hcolon' (heq.symm.trans heq')
        exact hkey (trim_eq_nil_iff.2 hblank)
  · refine .inr ⟨.inl hmem, ?_⟩
    rw [infoPair, splitFirst?_eq_none hmem]
    rfl

/-- Blanks around an item do not give it a key. -/
theorem lacksKey_trim_iff (piece : List Char) : LacksKey (trim piece) ↔ LacksKey piece := by
  have hpadded := isPadded_trim piece
  have hcolon : ':' ∈ piece ↔ ':' ∈ trim piece := hpadded.mem_iff rfl
  obtain ⟨before, after, hbefore, -, heq⟩ := hpadded
  generalize trim piece = item at heq hcolon
  subst heq
  constructor
  · rintro (hnot | ⟨key, value, rfl, hkey, hblank⟩)
    · exact .inl (hcolon.not.2 hnot)
    · refine .inr ⟨before ++ key, value ++ after, by simp, ?_, ?_⟩
      · simp [not_mem_of_blank hbefore, isBlank, hkey]
      · exact List.forall_mem_append.2 ⟨hbefore, hblank⟩
  · rintro (hnot | ⟨key, value, heq, hkey, hblank⟩)
    · exact .inl (hcolon.not.1 hnot)
    · by_cases hmem : ':' ∈ item
      · obtain ⟨key', value', rfl, hkey'⟩ := List.eq_append_cons_of_mem hmem
        have hfront : ':' ∉ before ++ key' := by simp [not_mem_of_blank hbefore, isBlank, hkey']
        obtain ⟨rfl, -⟩ := append_separator_inj hkey hfront
          (show key ++ ':' :: value = before ++ key' ++ ':' :: (value' ++ after) by simp [← heq])
        exact .inr ⟨key', value', rfl, hkey', (List.forall_mem_append.1 hblank).2⟩
      · exact .inl hmem

/-! ## Lists of pairs -/

/-- A list is read item by item, up to the first one that is refused. -/
theorem mapM_cases {ε α β : Type} (f : α → Except ε β) (l : List α) :
    (∃ r, l.mapM f = .ok r ∧ (∀ a ∈ l, ∃ b, f a = .ok b) ∧ ∀ b ∈ r, ∃ a ∈ l, f a = .ok b) ∨
      ∃ before a after e, l = before ++ a :: after ∧ (∀ a ∈ before, ∃ b, f a = .ok b) ∧
        f a = .error e ∧ l.mapM f = .error e := by
  induction l with
  | nil => exact .inl ⟨[], rfl, nofun, nofun⟩
  | cons a l ih =>
    rw [List.mapM_cons]
    cases ha : f a with
    | error e => exact .inr ⟨[], a, l, e, rfl, nofun, ha, rfl⟩
    | ok b =>
      rcases ih with ⟨r, hr, hall, hfrom⟩ | ⟨before, a', after, e, rfl, hbefore, hfail, he⟩
      · refine .inl ⟨b :: r, by rw [hr]; rfl, List.forall_mem_cons.2 ⟨⟨b, ha⟩, hall⟩, ?_⟩
        exact List.forall_mem_cons.2 ⟨⟨a, List.mem_cons_self, ha⟩,
          fun b' hb => (hfrom b' hb).imp fun _ h => ⟨List.mem_cons_of_mem _ h.1, h.2⟩⟩
      · exact .inr ⟨a :: before, a', after, e, rfl, List.forall_mem_cons.2 ⟨⟨b, ha⟩, hbefore⟩,
          hfail, by rw [he]; rfl⟩

/-- Pairs are read from every text that joins the items they are written as. -/
theorem infoPairs_eq_of_joins {s : String} {pairs : List (String × String)}
    (hpairs : ∀ pair ∈ pairs, IsPair pair) (h : Joins s (pairs.map pairItem)) :
    infoPairs s = .ok pairs := by
  have hitems : ∀ item ∈ pairs.map pairItem, IsItem item :=
    List.forall_mem_map.2 fun pair hpair => (hpairs pair hpair).isItem
  rw [infoPairs, listItems_of_joins hitems h, List.mapM_map]
  exact (mapM_eq_pure_map fun pair hpair => infoPair_pairItem (hpairs pair hpair)).trans
    (congrArg _ (List.map_id pairs))

/-- What is read from an item of a list is a pair. -/
theorem isPair_of_infoPair {item : String} (hitem : IsItem item) {pair : String × String}
    (h : infoPair item = .ok pair) : IsPair pair := by
  rcases infoPair_cases item with ⟨-, key, value, heq, hcolon, hkey, hok⟩ | ⟨-, herror⟩
  · cases hok.symm.trans h
    have hcomma := hitem.comma_not_mem
    rw [heq, List.mem_append, not_or, List.mem_cons, not_or] at hcomma
    have hmem {s : List Char} {c : Char} (hblank : isBlank c = false) (hc : c ∉ s) : c ∉ trim s :=
      ((isPadded_trim s).mem_iff hblank).not.1 hc
    exact {
      key_ne_empty := by simpa using hkey
      colon_not_mem_key := by simpa using hmem rfl hcolon
      comma_not_mem_key := by simpa using hmem rfl hcomma.1
      trim_key := by simp [trim_trim]
      comma_not_mem_value := by simpa using hmem rfl hcomma.2.2
      trim_value := by simp [trim_trim] }
  · cases herror.symm.trans h

theorem not_lacksKey_of_infoPair {item : String} {pair : String × String}
    (h : infoPair item = .ok pair) : ¬LacksKey item.toList := by
  rcases infoPair_cases item with ⟨hkey, -⟩ | ⟨-, herror⟩
  · exact hkey
  · cases herror.symm.trans h

/-- Either all items of a list are read as pairs, or the first one without a key is named. -/
theorem infoPairs_cases (s : String) :
    (∃ pairs, infoPairs s = .ok pairs ∧ (∀ item ∈ listItems s, ¬LacksKey item.toList) ∧
        ∀ pair ∈ pairs, IsPair pair) ∨
      ∃ before item after, listItems s = before ++ item :: after ∧
        (∀ item ∈ before, ¬LacksKey item.toList) ∧ LacksKey item.toList ∧
        infoPairs s = .error (noPair item) := by
  rcases mapM_cases infoPair (listItems s) with
    ⟨pairs, hok, hall, hfrom⟩ | ⟨before, item, after, e, heq, hbefore, hfail, herror⟩
  · refine .inl ⟨pairs, hok, fun item hitem => ?_, fun pair hpair => ?_⟩
    · obtain ⟨pair, hpair⟩ := hall item hitem
      exact not_lacksKey_of_infoPair hpair
    · obtain ⟨item, hitem, hread⟩ := hfrom pair hpair
      exact isPair_of_infoPair (isItem_of_mem_listItems hitem) hread
  · refine .inr ⟨before, item, after, heq, fun item hitem => ?_, ?_⟩
    · obtain ⟨pair, hpair⟩ := hbefore item hitem
      exact not_lacksKey_of_infoPair hpair
    · rcases infoPair_cases item with ⟨-, _, _, -, -, -, hok⟩ | ⟨hlacks, hrefused⟩
      · cases hok.symm.trans hfail
      · cases hrefused.symm.trans hfail
        exact ⟨hlacks, herror⟩

/-- The items without a key come from the pieces without a key that are not blank. -/
theorem exists_lacksKey_iff (s : String) :
    (∃ item ∈ listItems s, LacksKey item.toList) ↔
      ∃ piece ∈ s.toList.splitOn ',', (∃ c ∈ piece, isBlank c = false) ∧ LacksKey piece := by
  have hblank (piece : List Char) : trim piece ≠ [] ↔ ∃ c ∈ piece, isBlank c = false := by
    simp [trim_eq_nil_iff]
  simp only [listItems_eq, mem_heldItems_iff]
  constructor
  · rintro ⟨_, ⟨piece, hpiece, hne, rfl⟩, hlacks⟩
    rw [String.toList_ofList, lacksKey_trim_iff] at hlacks
    exact ⟨piece, hpiece, (hblank piece).1 hne, hlacks⟩
  · rintro ⟨piece, hpiece, hne, hlacks⟩
    refine ⟨_, ⟨piece, hpiece, (hblank piece).2 hne, rfl⟩, ?_⟩
    rwa [String.toList_ofList, lacksKey_trim_iff]

/-- The items of a list are read from exactly the texts that join them, and pairs from every text
that joins the items they are written as. A list of pairs is refused exactly if a piece of it that
is not blank has no key, and the error names the first such item. All pairs that are read could have
been written. -/
theorem infoPairs_of_joins :
    (∀ (s : String) (items : List String), listItems s = items ↔
      (∀ item ∈ items, IsItem item) ∧ Joins s items) ∧
    (∀ (s : String) (pairs : List (String × String)), (∀ pair ∈ pairs, IsPair pair) →
      Joins s (pairs.map pairItem) → infoPairs s = .ok pairs) ∧
    ∀ s : String,
      ((∃ e, infoPairs s = .error e) ↔ ∃ piece ∈ s.toList.splitOn ',',
        (∃ c ∈ piece, isBlank c = false) ∧ LacksKey piece) ∧
      (∀ e, infoPairs s = .error e → ∃ before item after, listItems s = before ++ item :: after ∧
        (∀ item ∈ before, ¬LacksKey item.toList) ∧ LacksKey item.toList ∧ e = noPair item) ∧
      ∀ pairs, infoPairs s = .ok pairs → ∀ pair ∈ pairs, IsPair pair := by
  refine ⟨fun _ _ => listItems_eq_iff, fun _ _ => infoPairs_eq_of_joins, fun s => ?_⟩
  rw [← exists_lacksKey_iff]
  rcases infoPairs_cases s with
    ⟨pairs, hok, hkeys, hpairs⟩ | ⟨before, item, after, heq, hbefore, hlacks, herror⟩
  · simp only [hok]
    refine ⟨iff_of_false nofun ?_, nofun, ?_⟩
    · rintro ⟨item, hitem, hlacks⟩
      exact hkeys item hitem hlacks
    · rintro _ ⟨⟩
      exact hpairs
  · simp only [herror]
    refine ⟨iff_of_true ⟨_, rfl⟩ ⟨item, by simp [heq], hlacks⟩, ?_, nofun⟩
    rintro _ ⟨⟩
    exact ⟨before, item, after, heq, hbefore, hlacks, rfl⟩

/-- Three pairs with a blank item among them. One value has a colon, and one is empty. -/
theorem infoPairs_of_joins_note :
    let s := " hashlib:sha256,,\tnote:a:b, empty: "
    let pairs := [("hashlib", "sha256"), ("note", "a:b"), ("empty", "")]
    (∀ pair ∈ pairs, IsPair pair) ∧ Joins s (pairs.map pairItem) ∧ infoPairs s = .ok pairs := by
  intro s pairs
  have hpairs : ∀ pair ∈ pairs, IsPair pair := by
    simp only [pairs, List.forall_mem_cons]
    refine ⟨?_, ?_, ?_, nofun⟩ <;>
      exact ⟨by decide, by decide, by decide, by decide, by decide, by decide⟩
  have hitems : listItems s = pairs.map pairItem := by decide
  have hjoins := ((infoPairs_of_joins.1 _ _).1 hitems).2
  exact ⟨hpairs, hjoins, infoPairs_of_joins.2.1 _ _ hpairs hjoins⟩

end TokenInventory
