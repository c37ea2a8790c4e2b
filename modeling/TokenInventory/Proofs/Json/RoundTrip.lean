import TokenInventory.Proofs.Json.Scalar

/-!
# Reading what was written

A value made of texts, truth values and integers of 64 bits is `Whole`; it is read back from the
indented lines it is written in (`ofText?_toIndented`). The round trip of a value is proved with
arbitrary text behind it, so that items and members can be read one after the other; the length of
what is written is enough fuel.
-/

namespace TokenInventory.Json

/-- A value without numbers that only their spelling can tell, and without unpaired halves. -/
inductive Whole : Json → Prop
  | null : Whole null
  | bool (b : Bool) : Whole (bool b)
  | int {n : Int} (h : FitsWord n) : Whole (int n)
  | str (s : String) : Whole (str s)
  | arr {items : List Json} (h : ∀ item ∈ items, Whole item) : Whole (arr items)
  | obj {members : List (String × Json)} (h : ∀ m ∈ members, Whole m.2) : Whole (obj members)

/-- Whether a value is read back from its lines at every depth, whatever follows it. -/
def ReadsBack (v : Json) : Prop :=
  ∀ depth fuel rest, EndsNumber rest → (indented depth v).length ≤ fuel →
    readValue fuel (indented depth v ++ rest) = some (v, rest)

variable {rest : List Char} {depth fuel : Nat}

/-! ## The beginning of a value -/

theorem exists_cons_writeInt (n : Int) :
    ∃ c s, (c = '-' ∨ c.isDigit = true) ∧ Text.writeInt n = c :: s := by
  cases n with
  | ofNat n =>
    obtain ⟨c, s, hc, h⟩ := Text.exists_cons_toDigits n
    exact ⟨c, s, .inr hc, h⟩
  | negSucc n => exact ⟨'-', _, .inl rfl, rfl⟩

theorem not_isSpace_of_isDigit {c : Char} (h : c.isDigit = true) : isSpace c = false := by
  cases hspace : isSpace c with
  | false => rfl
  | true =>
    simp only [isSpace, Bool.or_eq_true, decide_eq_true_eq] at hspace
    rcases hspace with ((rfl | rfl) | rfl) | rfl <;> cases h

/-- A value begins neither with a blank nor with a closing bracket. -/
theorem exists_cons_indented {v : Json} (hv : Whole v) (depth : Nat) :
    ∃ c s, isSpace c = false ∧ c ≠ ']' ∧ indented depth v = c :: s := by
  cases hv with
  | null => exact ⟨'n', _, rfl, by decide, by rw [indented]; rfl⟩
  | bool b =>
    cases b with
    | true => exact ⟨'t', _, rfl, by decide, by rw [indented]; rfl⟩
    | false => exact ⟨'f', _, rfl, by decide, by rw [indented]; rfl⟩
  | @int n h =>
    obtain ⟨c, s, hc, hn⟩ := exists_cons_writeInt n
    refine ⟨c, s, ?_, ?_, by rw [indented, hn]⟩
    · exact hc.elim (fun h => h ▸ rfl) not_isSpace_of_isDigit
    · rintro rfl
      rcases hc with hc | hc <;> cases hc
  | str s => exact ⟨'"', _, rfl, by decide, by rw [indented]; rfl⟩
  | @arr items h => cases items <;> exact ⟨'[', _, rfl, by decide, by rw [indented] <;> rfl⟩
  | @obj members h => cases members <;> exact ⟨'\x7b', _, rfl, by decide, by rw [indented] <;> rfl⟩

/-! ## Values without parts -/

theorem readValue_space (fuel : Nat) (s : List Char) :
    readValue fuel (' ' :: s) = readValue fuel s :=
  readValue_congr (List.dropWhile_cons_of_pos rfl) fuel

theorem readValue_number {c : Char} (hc : c = '-' ∨ c.isDigit = true) (fuel : Nat)
    (s : List Char) : readValue (fuel + 1) (c :: s) = readNumber (c :: s) := by
  have hspace : isSpace c = false := hc.elim (fun h => h ▸ rfl) not_isSpace_of_isDigit
  rw [readValue, skipSpace_cons hspace]
  split
  case h_7 => rfl
  all_goals
    rename_i heq
    cases heq
    rcases hc with hc | hc <;> cases hc

theorem readsBack_int {n : Int} (hn : FitsWord n) : ReadsBack (int n) := by
  intro depth fuel rest hrest hfuel
  obtain ⟨c, s, hc, h⟩ := exists_cons_writeInt n
  rw [indented] at hfuel ⊢
  obtain ⟨fuel, rfl⟩ : ∃ k, fuel = k + 1 := ⟨fuel - 1, by rw [h, List.length_cons] at hfuel; omega⟩
  rw [h, List.cons_append, readValue_number hc, ← List.cons_append, ← h,
    readNumber_writeInt hn hrest]

theorem readsBack_str (s : String) : ReadsBack (str s) := by
  intro depth fuel rest _ hfuel
  rw [indented] at hfuel ⊢
  obtain ⟨written, hwritten, hread⟩ := readText_writeText s rest
  obtain ⟨fuel, rfl⟩ : ∃ k, fuel = k + 1 :=
    ⟨fuel - 1, by rw [writeText, List.cons_append, List.length_cons] at hfuel; omega⟩
  rw [hwritten, readValue, skipSpace_cons rfl]
  simp [hread]

/-! ## Arrays and objects -/

theorem endsNumber_indentedItems (depth : Nat) (items : List Json) (rest : List Char) :
    EndsNumber (indentedItems depth items ++ rest) := by
  intro c hc
  cases items <;> rw [indentedItems] at hc <;> cases hc <;> decide

theorem endsNumber_indentedMembers (depth : Nat) (members : List (String × Json))
    (rest : List Char) : EndsNumber (indentedMembers depth members ++ rest) := by
  intro c hc
  rcases members with _ | ⟨⟨key, value⟩, members⟩ <;> rw [indentedMembers] at hc <;> cases hc <;>
    decide

theorem readItems_newLine (fuel depth : Nat) (s : List Char) :
    readItems fuel (newLine depth ++ s) = readItems fuel s :=
  readItems_congr (skipSpace_newLine depth s) fuel

theorem readMembers_newLine (fuel depth : Nat) (s : List Char) :
    readMembers fuel (newLine depth ++ s) = readMembers fuel s :=
  readMembers_congr (skipSpace_newLine depth s) fuel

theorem readItems_indented {items : List Json} {item : Json} (hitem : ReadsBack item)
    (hitems : ∀ v ∈ items, ReadsBack v) (inner depth fuel : Nat) (rest : List Char)
    (hfuel : (indented inner item ++ indentedItems depth items).length ≤ fuel) :
    readItems fuel (indented inner item ++ (indentedItems depth items ++ rest)) =
      some (item :: items, rest) := by
  induction items generalizing item fuel inner with
  | nil =>
    rw [indentedItems, List.length_append, List.length_append, List.length_singleton] at hfuel
    obtain ⟨fuel, rfl⟩ : ∃ k, fuel = k + 1 := ⟨fuel - 1, by omega⟩
    rw [readItems, hitem _ _ _ (endsNumber_indentedItems _ _ _) (by omega)]
    simp [indentedItems, skipSpace_newLine, skipSpace_cons (show isSpace ']' = false from rfl)]
  | cons next items ih =>
    rw [List.forall_mem_cons] at hitems
    rw [indentedItems] at hfuel
    simp only [List.cons_append, List.append_assoc, List.length_append, List.length_cons] at hfuel
    obtain ⟨fuel, rfl⟩ : ∃ k, fuel = k + 1 := ⟨fuel - 1, by omega⟩
    rw [readItems, hitem _ _ _ (endsNumber_indentedItems _ _ _) (by omega)]
    simp only [indentedItems, List.cons_append, List.append_assoc, Option.bind_eq_bind,
      Option.bind_some, skipSpace_cons (show isSpace ',' = false from rfl), readItems_newLine]
    rw [ih hitems.1 hitems.2 _ _ (by rw [List.length_append]; omega)]
    rfl

/-- Reading a member: its key, its value, and what comes after it. -/
theorem readMembers_member {key : String} {value : Json} (hvalue : ReadsBack value) {inner : Nat}
    {after : List Char} (hafter : EndsNumber after)
    (hfuel : (indented inner value).length ≤ fuel) :
    readMembers (fuel + 1) (writeText key ++ ':' :: ' ' :: (indented inner value ++ after)) =
      match skipSpace after with
      | ',' :: s => (readMembers fuel s).map fun (members, s) => ((key, value) :: members, s)
      | '\x7d' :: s => some ([(key, value)], s)
      | _ => none := by
  obtain ⟨written, hwritten, hread⟩ :=
    readText_writeText key (':' :: ' ' :: (indented inner value ++ after))
  rw [hwritten, readMembers, skipSpace_cons rfl]
  simp only [hread, Option.bind_eq_bind, Option.bind_some,
    skipSpace_cons (show isSpace ':' = false from rfl), readValue_space,
    hvalue _ _ _ hafter hfuel]
  generalize skipSpace after = after
  split <;> simp only [Option.pure_def, Option.map_eq_bind, Function.comp_def]

theorem readMembers_indented {members : List (String × Json)} (key : String) {value : Json}
    (hvalue : ReadsBack value) (hmembers : ∀ m ∈ members, ReadsBack m.2) (inner depth fuel : Nat)
    (rest : List Char)
    (hfuel : (indented inner value ++ indentedMembers depth members).length ≤ fuel) :
    readMembers fuel (writeText key ++ ':' :: ' ' :: (indented inner value ++
      (indentedMembers depth members ++ rest))) = some ((key, value) :: members, rest) := by
  induction members generalizing key value fuel inner with
  | nil =>
    rw [indentedMembers, List.length_append, List.length_append, List.length_singleton] at hfuel
    obtain ⟨fuel, rfl⟩ : ∃ k, fuel = k + 1 := ⟨fuel - 1, by omega⟩
    rw [readMembers_member hvalue (endsNumber_indentedMembers _ _ _) (by omega)]
    simp [indentedMembers, skipSpace_newLine,
      skipSpace_cons (show isSpace '\x7d' = false from rfl)]
  | cons next members ih =>
    obtain ⟨nextKey, nextValue⟩ := next
    obtain ⟨hnext, hmembers⟩ := List.forall_mem_cons.1 hmembers
    have hnext : ReadsBack nextValue := hnext
    rw [indentedMembers] at hfuel
    simp only [List.cons_append, List.append_assoc, List.length_append, List.length_cons] at hfuel
    obtain ⟨fuel, rfl⟩ : ∃ k, fuel = k + 1 := ⟨fuel - 1, by omega⟩
    rw [readMembers_member hvalue (endsNumber_indentedMembers _ _ _) (by omega)]
    simp only [indentedMembers, List.cons_append, List.append_assoc,
      skipSpace_cons (show isSpace ',' = false from rfl), readMembers_newLine]
    rw [ih _ hnext hmembers _ _ (by rw [List.length_append]; omega)]
    rfl

/-! ## All values -/

theorem readsBack_arr {items : List Json} (hwhole : ∀ item ∈ items, Whole item)
    (hitems : ∀ item ∈ items, ReadsBack item) : ReadsBack (arr items) := by
  intro depth fuel rest _ hfuel
  cases items with
  | nil =>
    rw [indented] at hfuel ⊢
    obtain ⟨fuel, rfl⟩ : ∃ k, fuel = k + 1 := ⟨fuel - 1, by simp at hfuel; omega⟩
    rw [List.cons_append, readValue, skipSpace_cons rfl]
    rfl
  | cons item items =>
    rw [List.forall_mem_cons] at hwhole hitems
    obtain ⟨c, s, hspace, hbracket, hitem⟩ := exists_cons_indented hwhole.1 (depth + 1)
    rw [indented] at hfuel ⊢
    simp only [List.cons_append, List.append_assoc, List.length_append, List.length_cons] at hfuel ⊢
    obtain ⟨fuel, rfl⟩ : ∃ k, fuel = k + 1 := ⟨fuel - 1, by omega⟩
    have hread := readItems_indented hitems.1 hitems.2 (depth + 1) depth fuel rest
      (by rw [List.length_append]; omega)
    rw [hitem, List.cons_append] at hread ⊢
    rw [readValue, skipSpace_cons rfl]
    simp only [skipSpace_newLine, skipSpace_cons hspace]
    split
    · next heq => exact absurd (List.cons.inj heq).1 hbracket
    · rw [hread]
      rfl

theorem readsBack_obj {members : List (String × Json)} (hmembers : ∀ m ∈ members, ReadsBack m.2) :
    ReadsBack (obj members) := by
  intro depth fuel rest _ hfuel
  rcases members with _ | ⟨⟨key, value⟩, members⟩
  · rw [indented] at hfuel ⊢
    obtain ⟨fuel, rfl⟩ : ∃ k, fuel = k + 1 := ⟨fuel - 1, by simp at hfuel; omega⟩
    rw [List.cons_append, readValue, skipSpace_cons rfl]
    rfl
  · obtain ⟨hvalue, hmembers⟩ := List.forall_mem_cons.1 hmembers
    have hvalue : ReadsBack value := hvalue
    rw [indented] at hfuel ⊢
    simp only [List.cons_append, List.append_assoc, List.length_append, List.length_cons] at hfuel ⊢
    obtain ⟨fuel, rfl⟩ : ∃ k, fuel = k + 1 := ⟨fuel - 1, by omega⟩
    have hread := readMembers_indented key hvalue hmembers (depth + 1) depth fuel rest
      (by rw [List.length_append]; omega)
    obtain ⟨written, hwritten, -⟩ := readText_writeText key
      (':' :: ' ' :: (indented (depth + 1) value ++ (indentedMembers depth members ++ rest)))
    rw [hwritten] at hread ⊢
    rw [readValue, skipSpace_cons rfl]
    simp only [skipSpace_newLine, skipSpace_cons (show isSpace '"' = false from rfl)]
    split
    · next heq => exact absurd (List.cons.inj heq).1 (by decide)
    · rw [hread]
      rfl

theorem Whole.readsBack {v : Json} (h : Whole v) : ReadsBack v := by
  induction h with
  | null =>
    intro depth fuel rest _ hfuel
    rw [indented] at hfuel ⊢
    obtain ⟨fuel, rfl⟩ : ∃ k, fuel = k + 1 := ⟨fuel - 1, by simp at hfuel; omega⟩
    rfl
  | bool b =>
    intro depth fuel rest _ hfuel
    rw [indented] at hfuel ⊢
    cases b <;>
      obtain ⟨fuel, rfl⟩ : ∃ k, fuel = k + 1 := ⟨fuel - 1, by simp at hfuel; omega⟩ <;>
      rfl
  | int h => exact readsBack_int h
  | str s => exact readsBack_str s
  | arr h ih => exact readsBack_arr h ih
  | obj h ih => exact readsBack_obj ih

/-- What is written in indented lines is read back. -/
theorem ofText?_toIndented {v : Json} (h : Whole v) : ofText? v.toIndented.toList = some v := by
  rw [toIndented, String.toList_ofList, ofText?]
  have hread := h.readsBack 0 (2 * (indented 0 v).length + 2) [] (fun c hc => by cases hc)
    (by omega)
  rw [List.append_nil] at hread
  rw [hread]
  rfl

end TokenInventory.Json
