import TokenInventory.Proofs.KeyContainer.Tag
import TokenInventory.Proofs.Text.Blank

/-!
# The markup of a container

The text of a container is a sequence of marks: tags, and text between them. As long as no tag
begins within a mark (`Mark.IsSound`), finding an element by its name in the text comes down to
comparing the tags of the marks (`firstElement?_render`).
-/

namespace TokenInventory.KeyContainer

/-- A piece of the text of a container. -/
inductive Mark
  | text (s : List Char)
  /-- An instruction to the reader of the text. -/
  | instruction (s : List Char)
  /-- A tag that opens an element, with what else is in the tag. -/
  | opening (tag : Tag) (rest : List Char)
  | closing (tag : Tag)

namespace Mark

/-- A mark as it is written. -/
def chars : Mark → List Char
  | text s => s
  | instruction s => '<' :: '?' :: s
  | opening tag rest => '<' :: (tag.label.toList ++ (rest ++ ['>']))
  | closing tag => '<' :: '/' :: (tag.label.toList ++ ['>'])

/-- Whether no tag begins within a mark, and a tag that opens an element ends where it should. -/
def IsSound : Mark → Prop
  | text s => '<' ∉ s
  | instruction s => '<' ∉ s
  | opening _ rest => '<' ∉ rest ∧ '>' ∉ rest ∧ EndsName (rest ++ ['>'])
  | closing _ => True

/-- What else is in a mark that is a tag opening an element. -/
def opens? (tag : Tag) : Mark → Option (List Char)
  | opening tag' rest => if tag = tag' then some rest else none
  | _ => none

/-- Whether a mark is a tag closing an element. -/
def closes (tag : Tag) : Mark → Bool
  | closing tag' => tag = tag'
  | _ => false

/-- The rest of the first tag that opens an element, and the marks after it. -/
def openingOf? (tag : Tag) : List Mark → Option (List Char × List Mark)
  | [] => none
  | mark :: marks =>
    match mark.opens? tag with
    | some rest => some (rest, marks)
    | none => openingOf? tag marks

/-- The marks before the first tag that closes an element, and those after it. -/
def closingOf? (tag : Tag) : List Mark → Option (List Mark × List Mark)
  | [] => none
  | mark :: marks =>
    if mark.closes tag then some ([], marks)
    else (closingOf? tag marks).map fun (content, after) => (mark :: content, after)

/-- The marks in the first element with a tag, and those after it. -/
def elementOf? (tag : Tag) (marks : List Mark) : Option (List Mark × List Mark) :=
  (openingOf? tag marks).bind fun (_, marks) => closingOf? tag marks

end Mark

/-- The text of marks. -/
def render (marks : List Mark) : List Char :=
  marks.flatMap Mark.chars

theorem render_cons (mark : Mark) (marks : List Mark) :
    render (mark :: marks) = mark.chars ++ render marks :=
  rfl

theorem render_append (marks marks' : List Mark) :
    render (marks ++ marks') = render marks ++ render marks' :=
  List.flatMap_append

/-! ## Text without tags -/

theorem lt_not_mem_label (tag : Tag) : '<' ∉ tag.label.toList := by
  have hword : CharClass.isWord '<' = false := by decide
  have hname : '<' ∉ tag.name.toList := fun h =>
    Bool.false_ne_true (hword.symm.trans (tag.isWord_of_mem_name _ h))
  rcases tag.label_cases with h | ⟨space, -, hspace, -, h⟩
  · rwa [h]
  · have hspace : '<' ∉ space := fun h => Bool.false_ne_true (hword.symm.trans (hspace _ h))
    rw [h]
    simp [hspace, hname]

theorem afterOpening?_append {s : List Char} (hs : '<' ∉ s) (name r : List Char) :
    afterOpening? name (s ++ r) = afterOpening? name r := by
  induction s with
  | nil => rfl
  | cons c s ih =>
    obtain ⟨hc, hs⟩ := not_or.1 (fun h => hs (List.mem_cons.2 h))
    rw [List.cons_append, afterOpening?, ih hs]
    exact fun h => hc h.symm

theorem stripClosing?_of_ne {c : Char} (hc : c ≠ '<') (name s : List Char) :
    stripClosing? name (c :: s) = none := by
  rw [stripClosing?, Text.stripPrefix?, if_neg hc.symm, Option.bind_none]

theorem splitAtClosing?_append {s : List Char} (hs : '<' ∉ s) (name r : List Char) :
    splitAtClosing? name (s ++ r) =
      (splitAtClosing? name r).map fun (content, after) => (s ++ content, after) := by
  induction s with
  | nil => simp
  | cons c s ih =>
    obtain ⟨hc, hs⟩ := not_or.1 (fun h => hs (List.mem_cons.2 h))
    rw [List.cons_append, splitAtClosing?, stripClosing?_of_ne (Ne.symm hc), ih hs]
    simp [Function.comp_def]

/-! ## Tags that open -/

theorem afterName_of_not_isNamespaceChar {c : Char} (hc : isNamespaceChar c = false) (tag : Tag)
    (s : List Char) : afterName tag.name.toList (c :: s) = [] := by
  have hword : CharClass.isWord c = false := (Bool.or_eq_false_iff.1 hc).1
  have hnamespace : stripNamespace? (c :: s) = none := by
    rw [stripNamespace?, List.takeWhile_cons_of_neg (by rw [hc]; exact Bool.false_ne_true)]
  have hend : EndsWord (c :: s) := fun d hd => by cases hd; exact hword
  have hname := stripName?_word tag.isWord_of_mem_name (List.forall_mem_nil _) hend
  have hne : tag.name.toList ≠ [] := by cases tag <;> decide
  rw [List.nil_append, if_neg hne] at hname
  rw [afterName, hnamespace, hname]
  rfl

theorem endsName_append {rest : List Char} (h : EndsName (rest ++ ['>'])) (r : List Char) :
    EndsName (rest ++ '>' :: r) := by
  cases rest <;> exact h

/-- In a mark that does not open an element, no tag begins or none that opens it. -/
theorem chars_cases {mark : Mark} (hmark : mark.IsSound) {tag : Tag}
    (hopens : mark.opens? tag = none) (r : List Char) : '<' ∉ mark.chars ∨
      ∃ s, mark.chars = '<' :: s ∧ '<' ∉ s ∧ afterName tag.name.toList (s ++ r) = [] := by
  cases mark with
  | text s => exact .inl hmark
  | instruction s =>
    refine .inr ⟨'?' :: s, rfl, ?_, afterName_of_not_isNamespaceChar (by decide) tag _⟩
    rw [List.mem_cons, not_or]
    exact ⟨by decide, hmark⟩
  | opening tag' rest =>
    obtain ⟨hlt, -, hends⟩ := hmark
    have htag : ¬tag = tag' := fun h => by rw [Mark.opens?, if_pos h] at hopens; cases hopens
    refine .inr ⟨_, rfl, by simp [lt_not_mem_label, hlt], ?_⟩
    simp only [List.append_assoc, List.singleton_append]
    rw [afterName_label tag tag' (endsName_append hends r), if_neg htag]
  | closing tag' =>
    refine .inr ⟨_, rfl, by simp [lt_not_mem_label], ?_⟩
    exact afterName_of_not_isNamespaceChar (by decide) tag _

theorem afterOpening?_chars {mark : Mark} (hmark : mark.IsSound) {tag : Tag}
    (hopens : mark.opens? tag = none) (r : List Char) :
    afterOpening? tag.name.toList (mark.chars ++ r) = afterOpening? tag.name.toList r := by
  rcases chars_cases hmark hopens r with hlt | ⟨s, heq, hlt, hname⟩
  · exact afterOpening?_append hlt _ _
  · rw [heq, List.cons_append, afterOpening?, hname]
    exact afterOpening?_append hlt _ _

/-- A tag that opens an element is found. -/
theorem afterOpening?_opening (tag : Tag) {rest : List Char}
    (hmark : (Mark.opening tag rest).IsSound) (r : List Char) :
    afterOpening? tag.name.toList ((Mark.opening tag rest).chars ++ r) =
      some (rest ++ '>' :: r) := by
  have hname := afterName_label tag tag (endsName_append hmark.2.2 r)
  rw [if_pos rfl] at hname
  simp only [Mark.chars, List.cons_append, List.append_assoc, List.nil_append]
  rw [afterOpening?, hname]

theorem eq_opening_of_opens? {mark : Mark} {tag : Tag} {rest : List Char}
    (h : mark.opens? tag = some rest) : mark = .opening tag rest := by
  cases mark with
  | opening tag' rest' =>
    rw [Mark.opens?] at h
    split at h
    · next heq => rw [heq, Option.some.inj h]
    · cases h
  | _ => cases h

/-- Finding the first tag that opens an element in the text of marks. -/
theorem afterOpening?_render (tag : Tag) {marks : List Mark} (hmarks : ∀ m ∈ marks, m.IsSound) :
    afterOpening? tag.name.toList (render marks) =
      (Mark.openingOf? tag marks).map fun (rest, marks) => rest ++ '>' :: render marks := by
  induction marks with
  | nil => rfl
  | cons mark marks ih =>
    obtain ⟨hmark, hmarks⟩ := List.forall_mem_cons.1 hmarks
    rw [render_cons, Mark.openingOf?]
    cases hopens : mark.opens? tag with
    | none => rw [afterOpening?_chars hmark hopens, ih hmarks]
    | some rest =>
      obtain rfl := eq_opening_of_opens? hopens
      exact afterOpening?_opening tag hmark _

/-! ## Tags that close -/

theorem splitAtClosing?_skip {name s r : List Char}
    (hclosing : stripClosing? name ('<' :: (s ++ r)) = none) (hs : '<' ∉ s) :
    splitAtClosing? name ('<' :: (s ++ r)) =
      (splitAtClosing? name r).map fun (content, after) => ('<' :: (s ++ content), after) := by
  rw [splitAtClosing?, hclosing, splitAtClosing?_append hs]
  simp [Function.comp_def]

theorem stripClosing?_lt_of_ne {c : Char} (hc : c ≠ '/') (name s : List Char) :
    stripClosing? name ('<' :: c :: s) = none := by
  rw [stripClosing?, Text.stripPrefix?, if_pos rfl, Text.stripPrefix?, if_neg hc.symm,
    Option.bind_none]

/-- A mark that does not close an element is passed over. -/
theorem splitAtClosing?_chars {mark : Mark} (hmark : mark.IsSound) {tag : Tag}
    (hcloses : mark.closes tag = false) (r : List Char) :
    splitAtClosing? tag.name.toList (mark.chars ++ r) =
      (splitAtClosing? tag.name.toList r).map
        fun (content, after) => (mark.chars ++ content, after) := by
  cases mark with
  | text s => exact splitAtClosing?_append hmark _ _
  | instruction s =>
    have hs : '<' ∉ '?' :: s := by
      rw [List.mem_cons, not_or]
      exact ⟨by decide, hmark⟩
    exact splitAtClosing?_skip (stripClosing?_lt_of_ne (by decide) _ _) hs
  | opening tag' rest =>
    have hs : '<' ∉ tag'.label.toList ++ (rest ++ ['>']) := by
      simp [lt_not_mem_label, hmark.1]
    refine splitAtClosing?_skip ?_ hs
    obtain ⟨c, s, hc, hlabel⟩ := tag'.exists_cons_label
    rw [hlabel, List.cons_append, List.cons_append]
    exact stripClosing?_lt_of_ne hc _ _
  | closing tag' =>
    have htag : ¬tag = tag' := of_decide_eq_false hcloses
    have hs : '<' ∉ '/' :: (tag'.label.toList ++ ['>']) := by simp [lt_not_mem_label]
    refine splitAtClosing?_skip ?_ hs
    rw [List.cons_append, List.append_assoc, List.singleton_append, stripClosing?_label,
      if_neg htag]

/-- A tag that closes an element ends its content. -/
theorem splitAtClosing?_closing (tag : Tag) (r : List Char) :
    splitAtClosing? tag.name.toList ((Mark.closing tag).chars ++ r) = some ([], r) := by
  simp only [Mark.chars, List.cons_append, List.append_assoc, List.nil_append]
  rw [splitAtClosing?, stripClosing?_label, if_pos rfl]

theorem eq_closing_of_closes {mark : Mark} {tag : Tag} (h : mark.closes tag = true) :
    mark = .closing tag := by
  cases mark with
  | closing tag' => rw [of_decide_eq_true h]
  | _ => cases h

/-- Splitting the text of marks at the first tag that closes an element. -/
theorem splitAtClosing?_render (tag : Tag) {marks : List Mark} (hmarks : ∀ m ∈ marks, m.IsSound) :
    splitAtClosing? tag.name.toList (render marks) =
      (Mark.closingOf? tag marks).map fun (content, after) => (render content, render after) := by
  induction marks with
  | nil => rfl
  | cons mark marks ih =>
    obtain ⟨hmark, hmarks⟩ := List.forall_mem_cons.1 hmarks
    rw [render_cons, Mark.closingOf?]
    cases hcloses : mark.closes tag with
    | false =>
      rw [splitAtClosing?_chars hmark hcloses, ih hmarks]
      simp [Function.comp_def, render_cons]
    | true =>
      obtain rfl := eq_closing_of_closes hcloses
      exact splitAtClosing?_closing tag _

/-! ## Elements -/

theorem sound_of_openingOf? {tag : Tag} {marks after : List Mark} {rest : List Char}
    (hmarks : ∀ m ∈ marks, m.IsSound) (h : Mark.openingOf? tag marks = some (rest, after)) :
    '>' ∉ rest ∧ ∀ m ∈ after, m.IsSound := by
  induction marks with
  | nil => cases h
  | cons mark marks ih =>
    obtain ⟨hmark, hrest⟩ := List.forall_mem_cons.1 hmarks
    rw [Mark.openingOf?] at h
    split at h
    · next hopens =>
      cases h
      obtain rfl := eq_opening_of_opens? hopens
      exact ⟨hmark.2.1, hrest⟩
    · exact ih hrest h

/-- Finding the first element with a name in the text of marks. -/
theorem firstElement?_render (tag : Tag) {marks : List Mark} (hmarks : ∀ m ∈ marks, m.IsSound) :
    firstElement? tag.name.toList (render marks) =
      (Mark.elementOf? tag marks).map fun (content, after) => (render content, render after) := by
  rw [firstElement?, afterOpening?_render tag hmarks, Mark.elementOf?]
  cases hopening : Mark.openingOf? tag marks with
  | none => rfl
  | some p =>
    obtain ⟨rest, after⟩ := p
    obtain ⟨hgt, hafter⟩ := sound_of_openingOf? hmarks hopening
    simp only [Option.map_some, Option.bind_eq_bind, Option.bind_some, Text.splitFirst?_append hgt,
      splitAtClosing?_render tag hafter]

/-- The content of an element, blanks at its ends aside. -/
theorem element?_render (tag : Tag) {marks content after : List Mark}
    (hmarks : ∀ m ∈ marks, m.IsSound) (h : Mark.elementOf? tag marks = some (content, after)) :
    element? tag.name (render marks) = some (Text.trim (render content)) := by
  rw [element?, firstElement?_render tag hmarks, h]
  rfl

theorem element?_render_eq_none (tag : Tag) {marks : List Mark}
    (hmarks : ∀ m ∈ marks, m.IsSound) (h : Mark.elementOf? tag marks = none) :
    element? tag.name (render marks) = none := by
  rw [element?, firstElement?_render tag hmarks, h]
  rfl

theorem trim_render {marks : List Mark} {tag tag' : Tag} {rest : List Char}
    (hfirst : marks.head? = some (.opening tag rest))
    (hlast : marks.getLast? = some (.closing tag')) :
    Text.trim (render marks) = render marks := by
  refine Text.trim_eq_self_iff.2 ⟨?_, ?_⟩
  · obtain ⟨marks, rfl⟩ := List.head?_eq_some_iff.1 hfirst
    intro c hc
    cases hc
    decide
  · obtain ⟨marks, rfl⟩ := List.getLast?_eq_some_iff.1 hlast
    have htext : render (marks ++ [.closing tag']) =
        (render marks ++ '<' :: '/' :: tag'.label.toList) ++ ['>'] := by
      simp [render, Mark.chars]
    rw [htext, List.getLast?_concat]
    intro c hc
    cases hc
    decide

/-- Blanks around elements are no part of a content. -/
theorem trim_render_surrounded {content marks : List Mark} {tag tag' : Tag}
    {before rest after : List Char} (h : content = .text before :: (marks ++ [.text after]))
    (hbefore : ∀ c ∈ before, Text.isBlank c = true) (hafter : ∀ c ∈ after, Text.isBlank c = true)
    (hfirst : marks.head? = some (.opening tag rest))
    (hlast : marks.getLast? = some (.closing tag')) :
    Text.trim (render content) = render marks := by
  have htext : render content = before ++ (render marks ++ after) := by
    simp [h, Mark.chars, render]
  rw [htext, Text.trim_surrounded hbefore hafter (trim_render hfirst hlast)]

end TokenInventory.KeyContainer
