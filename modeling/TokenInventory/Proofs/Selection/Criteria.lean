import TokenInventory.Selection.Basic

/-!
# What a selection asks for

The checks of a selection, one by one (`Selection.IsMet`). A token that can be decided is selected
exactly if it passes all of them (`Selection.accepts?_eq_some_true_iff`).
-/

namespace TokenInventory.Selection

/-- Whether a token passes every check of a selection. -/
structure IsMet (around : Circumstances) (users : List User) (selection : Selection)
    (token : Token) : Prop where
  lastAuthentication : ∀ age ∈ selection.lastAuthentication,
    isRecent? around age token = some false
  serial : ∀ pattern ∈ selection.serial, pattern.fits token.serial = true
  description : ∀ pattern ∈ selection.description, pattern.fits token.description = true
  lacksKey : ∀ key ∈ selection.lacksKey, token.info.get? key = none
  hasKey : ∀ key ∈ selection.hasKey, token.info.get? key ≠ none
  infoFilter : ∀ filter ∈ selection.infoFilter, filter.accepts around.zone token = true
  columnFilter : ∀ filter ∈ selection.columnFilter, filter.accepts around.zone token = true
  orphaned : ∀ isOrphaned ∈ selection.orphaned, token.isOrphaned users = isOrphaned

variable {around : Circumstances} {users : List User} {selection : Selection} {token : Token}

theorem passes_eq_true_iff : selection.passes around users token = true ↔
    IsMet around users { selection with lastAuthentication := none } token := by
  simp only [passes, Bool.and_eq_true, Option.all_eq_true, SortedMap.contains, Bool.not_eq_true',
    Option.isSome_eq_false_iff, Option.isNone_iff_eq_none, Option.isSome_iff_ne_none,
    beq_iff_eq]
  constructor
  · rintro ⟨⟨⟨⟨⟨⟨hserial, hdescription⟩, hlacks⟩, hhas⟩, hinfo⟩, hcolumn⟩, horphaned⟩
    exact ⟨fun _ h => (Option.not_mem_none _ h).elim, hserial, hdescription, hlacks, hhas, hinfo,
      hcolumn, horphaned⟩
  · rintro ⟨-, hserial, hdescription, hlacks, hhas, hinfo, hcolumn, horphaned⟩
    exact ⟨⟨⟨⟨⟨⟨hserial, hdescription⟩, hlacks⟩, hhas⟩, hinfo⟩, hcolumn⟩, horphaned⟩

/-- A token is selected if and only if it passes every check. -/
theorem accepts?_eq_some_true_iff : selection.accepts? around users token = some true ↔
    IsMet around users selection token := by
  have hpasses : (selection.passes around users token = true ∧
      ∀ age ∈ selection.lastAuthentication, isRecent? around age token = some false) ↔
      IsMet around users selection token := by
    rw [passes_eq_true_iff]
    constructor
    · rintro ⟨h, hage⟩
      exact { h with lastAuthentication := hage }
    · intro h
      exact ⟨{ h with lastAuthentication := fun _ hnone => (Option.not_mem_none _ hnone).elim },
        h.lastAuthentication⟩
  rw [← hpasses, accepts?]
  cases selection.lastAuthentication with
  | none => simp
  | some age =>
    cases hrecent : isRecent? around age token with
    | none => simp [hrecent]
    | some isRecent => cases isRecent <;> simp [hrecent]

end TokenInventory.Selection
