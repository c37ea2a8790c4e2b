import TokenInventory.Proofs.KeyContainer.Markup

/-!
# Attributes in the markup of a container

An attribute is found in the first tag that opens its element (`attribute?_render`). The value of
another attribute before it is passed over (`attributeInTag?_value`), unless that value ends in the
name of the attribute and an equals sign. Then the quote that ends the value is taken for one that
begins the attribute's value (`attributeInTag?_of_endsIn`).
-/

namespace TokenInventory.KeyContainer

theorem attribute?_append {s : List Char} (hs : '<' ∉ s) (name label r : List Char) :
    attribute? name label (s ++ r) = attribute? name label r := by
  induction s with
  | nil => rfl
  | cons c s ih =>
    obtain ⟨hc, hs⟩ := not_or.1 (fun h => hs (List.mem_cons.2 h))
    rw [List.cons_append, attribute?, if_neg (Ne.symm hc), ih hs]

theorem attribute?_chars {mark : Mark} (hmark : mark.IsSound) {tag : Tag}
    (hopens : mark.opens? tag = none) (label r : List Char) :
    attribute? tag.name.toList label (mark.chars ++ r) = attribute? tag.name.toList label r := by
  rcases chars_cases hmark hopens r with hlt | ⟨s, heq, hlt, hname⟩
  · exact attribute?_append hlt _ _ _
  · rw [heq, List.cons_append, attribute?, if_pos rfl, hname]
    exact attribute?_append hlt _ _ _

/-- An attribute in the first tag that opens an element is found in the text of marks. -/
theorem attribute?_render (tag : Tag) {marks after : List Mark} {rest : List Char}
    (hmarks : ∀ m ∈ marks, m.IsSound) (h : Mark.openingOf? tag marks = some (rest, after))
    {label value : List Char}
    (hvalue : attributeInTag? label true (rest ++ '>' :: render after) = some value) :
    attribute? tag.name.toList label (render marks) = some value := by
  induction marks with
  | nil => cases h
  | cons mark marks ih =>
    obtain ⟨hmark, hrest⟩ := List.forall_mem_cons.1 hmarks
    rw [Mark.openingOf?] at h
    rw [render_cons]
    split at h
    · next hopens =>
      cases h
      obtain rfl := eq_opening_of_opens? hopens
      have hname := afterName_label tag tag (endsName_append hmark.2.2 (render after))
      rw [if_pos rfl] at hname
      simp only [Mark.chars, List.cons_append, List.append_assoc, List.nil_append]
      rw [attribute?, if_pos rfl, hname, List.findSome?_singleton, hvalue]
    · next hopens => rw [attribute?_chars hmark hopens, ih hrest h]

/-! ## Within a tag -/

/-- Whether a text ends in the name of an attribute and an equals sign, where a word may begin. -/
def EndsIn (label v : List Char) : Prop :=
  ∃ before, v = before ++ (label ++ ['=']) ∧ ∀ c ∈ before.getLast?, CharClass.isWord c = false

/-- Whether a word goes on after a text that comes after a word or after something else. -/
def isInWord (inWord : Bool) (before : List Char) : Bool :=
  (before.getLast?.map CharClass.isWord).getD inWord

theorem isInWord_cons (inWord : Bool) (c : Char) (before : List Char) :
    isInWord inWord (c :: before) = isInWord (CharClass.isWord c) before := by
  rw [isInWord, List.getLast?_cons, Option.map_some, Option.getD_some, isInWord, Option.getD_map]

theorem isInWord_false_iff {before : List Char} :
    isInWord false before = false ↔ ∀ c ∈ before.getLast?, CharClass.isWord c = false := by
  unfold isInWord
  cases before.getLast? <;> simp

/-- A name is found before a quote if it is all there is before the quote. -/
theorem stripPrefix?_attribute {label v : List Char} (hlabel : '"' ∉ label) (hv : '"' ∉ v)
    (s : List Char) : Text.stripPrefix? (label ++ ['=', '"']) (v ++ '"' :: s) =
      if v = label ++ ['='] then some s else none := by
  have happend (s : List Char) : label ++ ['=', '"'] ++ s = label ++ ['='] ++ '"' :: s := by simp
  split
  · next heq => rw [heq, ← happend, Text.stripPrefix?_append]
  · next hne =>
    refine Option.eq_none_iff_forall_ne_some.2 fun rest h => hne ?_
    have hlabel : '"' ∉ label ++ ['='] := by simpa using hlabel
    have heq : v ++ '"' :: s = label ++ ['='] ++ '"' :: rest := by
      rw [Text.eq_append_of_stripPrefix? h, happend]
    exact (Text.append_separator_inj hv hlabel heq).1

theorem attributeInTag?_quote {label : List Char} (hlabel : '"' ∉ label) (inWord : Bool)
    (s : List Char) :
    attributeInTag? label inWord ('"' :: s) = attributeInTag? label false s := by
  have hnone := stripPrefix?_attribute hlabel List.not_mem_nil s
  rw [List.nil_append, if_neg (by simp)] at hnone
  rw [attributeInTag?, hnone, Option.bind_none, ite_self]
  rfl

/-- A character is passed over if the name does not begin with it and end at the quote. -/
theorem attributeInTag?_cons {label v : List Char} (hlabel : '"' ∉ label) {c : Char}
    (hgt : '>' ∉ c :: v) (hquote : '"' ∉ c :: v) {inWord : Bool}
    (h : c :: v = label ++ ['='] → inWord = true) (s : List Char) :
    attributeInTag? label inWord (c :: v ++ '"' :: s) =
      attributeInTag? label (CharClass.isWord c) (v ++ '"' :: s) := by
  have hhere : (if inWord then none else
      (Text.stripPrefix? (label ++ ['=', '"']) (c :: v ++ '"' :: s)).bind fun rest =>
        (Text.splitFirst? '"' rest).map Prod.fst) = none := by
    rw [stripPrefix?_attribute hlabel hquote]
    split_ifs with hword heq
    · rfl
    · exact absurd (h heq) hword
    · rfl
  rw [List.cons_append] at hhere ⊢
  rw [attributeInTag?, hhere]
  exact if_neg (Ne.symm (List.ne_of_not_mem_cons hgt))

/-- The value of another attribute is passed over up to the quote that ends it. -/
theorem attributeInTag?_value {label v : List Char} (hlabel : '"' ∉ label) (hgt : '>' ∉ v)
    (hquote : '"' ∉ v) {inWord : Bool}
    (hv : ∀ before, v = before ++ (label ++ ['=']) → isInWord inWord before = true)
    (s : List Char) :
    attributeInTag? label inWord (v ++ '"' :: s) = attributeInTag? label false s := by
  induction v generalizing inWord with
  | nil => exact attributeInTag?_quote hlabel inWord s
  | cons c v ih =>
    have hhere : c :: v = label ++ ['='] → inWord = true := hv []
    rw [attributeInTag?_cons hlabel hgt hquote hhere]
    refine ih (List.not_mem_of_not_mem_cons hgt) (List.not_mem_of_not_mem_cons hquote)
      fun before heq => ?_
    rw [← isInWord_cons inWord]
    exact hv (c :: before) (by rw [heq, List.cons_append])

/-- An attribute is found where it begins. -/
theorem attributeInTag?_self (c : Char) (label : List Char) {v : List Char} (hv : '"' ∉ v)
    (s : List Char) :
    attributeInTag? (c :: label) false (c :: label ++ '=' :: '"' :: (v ++ '"' :: s)) = some v := by
  have hprefix : Text.stripPrefix? (c :: label ++ ['=', '"'])
      (c :: (label ++ '=' :: '"' :: (v ++ '"' :: s))) = some (v ++ '"' :: s) := by
    have := Text.stripPrefix?_append (c :: label ++ ['=', '"']) (v ++ '"' :: s)
    rwa [List.append_assoc] at this
  rw [List.cons_append, attributeInTag?, hprefix]
  simp [Text.splitFirst?_append hv]

/-- If the value of another attribute ends in the name, what follows the value is taken for it. -/
theorem attributeInTag?_of_endsIn {label before value : List Char} (hne : label ≠ [])
    (hlabel : '"' ∉ label) (hgt : '>' ∉ before ++ (label ++ ['=']))
    (hquote : '"' ∉ before ++ (label ++ ['='])) (hvalue : '"' ∉ value) {inWord : Bool}
    (hword : isInWord inWord before = false) (s : List Char) :
    attributeInTag? label inWord
      (before ++ (label ++ ['=']) ++ '"' :: (value ++ '"' :: s)) = some value := by
  induction before generalizing inWord with
  | nil =>
    obtain ⟨c, label, rfl⟩ := List.exists_cons_of_ne_nil hne
    have hword : inWord = false := hword
    rw [hword]
    simpa using attributeInTag?_self c label hvalue s
  | cons c before ih =>
    have hlonger : c :: (before ++ (label ++ ['='])) ≠ label ++ ['='] := fun heq => by
      have := congrArg List.length heq
      simp only [List.length_cons, List.length_append] at this
      omega
    rw [List.cons_append] at hgt hquote ⊢
    rw [attributeInTag?_cons hlabel hgt hquote fun heq => absurd heq hlonger]
    refine ih (List.not_mem_of_not_mem_cons hgt) (List.not_mem_of_not_mem_cons hquote) ?_
    rwa [isInWord_cons] at hword

end TokenInventory.KeyContainer
