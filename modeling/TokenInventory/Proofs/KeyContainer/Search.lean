import Mathlib.Tactic.SplitIfs
import TokenInventory.Proofs.KeyContainer.Layout

/-!
# Finding elements in lines

`Mark.Holds` says what the first element with a tag has in it. It is shown from the inside out, as
elements are nested: an element holds itself, and lines hold what one of them holds unless a line
before has such an element too. What is held is found in the text (`element?_of_holds`).
-/

namespace TokenInventory.KeyContainer

namespace Mark

/-- Whether the first element with a tag has the given content. -/
def Holds (tag : Tag) (content marks : List Mark) : Prop :=
  ∃ after, elementOf? tag marks = some (content, after)

/-- Whether there is no tag of an element. -/
def lacks (tag : Tag) (marks : List Mark) : Bool :=
  marks.all fun mark => (mark.opens? tag).isNone && !mark.closes tag

variable {tag tag' : Tag} {content marks before : List Mark} {rest : List Char} {depth : Nat}
  {children : List (List Mark)}

theorem lacks_cons {mark : Mark} : lacks tag (mark :: marks) = true ↔
    (mark.opens? tag = none ∧ mark.closes tag = false) ∧ lacks tag marks = true := by
  simp only [lacks, List.all_cons, Bool.and_eq_true, Option.isNone_iff_eq_none, Bool.not_eq_true']

theorem lacks_append : lacks tag (before ++ marks) = (lacks tag before && lacks tag marks) :=
  List.all_append

theorem openingOf?_append (h : lacks tag before = true) (marks : List Mark) :
    openingOf? tag (before ++ marks) = openingOf? tag marks := by
  induction before with
  | nil => rfl
  | cons mark before ih =>
    obtain ⟨⟨hopens, -⟩, h⟩ := lacks_cons.1 h
    rw [List.cons_append, openingOf?, hopens]
    exact ih h

theorem elementOf?_eq_none (h : lacks tag marks = true) : elementOf? tag marks = none := by
  have := openingOf?_append h []
  rw [List.append_nil] at this
  rw [elementOf?, this]
  rfl

theorem openingOf?_append_of_some {after : List Mark}
    (h : openingOf? tag marks = some (rest, after)) (more : List Mark) :
    openingOf? tag (marks ++ more) = some (rest, after ++ more) := by
  induction marks with
  | nil => cases h
  | cons mark marks ih =>
    rw [openingOf?] at h
    rw [List.cons_append, openingOf?]
    split at h
    · next hopens => cases h; rfl
    · exact ih h

theorem closingOf?_append_of_some {after : List Mark}
    (h : closingOf? tag marks = some (content, after)) (more : List Mark) :
    closingOf? tag (marks ++ more) = some (content, after ++ more) := by
  induction marks generalizing content with
  | nil => cases h
  | cons mark marks ih =>
    rw [closingOf?] at h
    rw [List.cons_append, closingOf?]
    split_ifs at h ⊢
    · cases h
      rfl
    · obtain ⟨⟨content', after'⟩, h', heq⟩ := Option.map_eq_some_iff.1 h
      cases heq
      rw [ih h']
      rfl

theorem closingOf?_append_closing (h : lacks tag content = true) (after : List Mark) :
    closingOf? tag (content ++ .closing tag :: after) = some (content, after) := by
  induction content with
  | nil => simp [closingOf?, closes]
  | cons mark content ih =>
    obtain ⟨⟨-, hcloses⟩, h⟩ := lacks_cons.1 h
    rw [List.cons_append, closingOf?, hcloses, ih h]
    rfl

/-- An element is found after marks without such an element. -/
theorem elementOf?_append (hbefore : lacks tag before = true) (hcontent : lacks tag content = true)
    (after : List Mark) : elementOf? tag
      (before ++ .opening tag rest :: (content ++ .closing tag :: after)) =
        some (content, after) := by
  rw [elementOf?, openingOf?_append hbefore, openingOf?, opens?, if_pos rfl]
  exact closingOf?_append_closing hcontent after

@[simp]
theorem lacks_leaf (value : List Char) : lacks tag (leaf tag' value) = decide (tag ≠ tag') := by
  by_cases h : tag = tag' <;> simp [lacks, leaf, opens?, closes, h]

@[simp]
theorem lacks_lines : lacks tag (lines depth children) = children.all (lacks tag) := by
  rw [lines, lacks, List.all_append, List.all_flatMap]
  exact Bool.and_true _

@[simp]
theorem lacks_block : lacks tag (block depth tag' rest children) =
    (decide (tag ≠ tag') && children.all (lacks tag)) := by
  have hlines : lacks tag (lines depth children) = children.all (lacks tag) := lacks_lines
  by_cases h : tag = tag' <;> simp_all [lacks, block, opens?, closes]

/-- An element holds its own content. -/
theorem holds_self (h : lacks tag content = true) :
    Holds tag content (.opening tag rest :: (content ++ [.closing tag])) :=
  ⟨[], elementOf?_append (show lacks tag [] = true from rfl) h []⟩

theorem holds_leaf (tag : Tag) (value : List Char) : Holds tag [.text value] (leaf tag value) :=
  holds_self rfl

theorem Holds.append (h : Holds tag content marks) (more : List Mark) :
    Holds tag content (marks ++ more) := by
  obtain ⟨after, h⟩ := h
  obtain ⟨⟨rest, between⟩, hopening, hclosing⟩ := Option.bind_eq_some_iff.1 h
  refine ⟨after ++ more, ?_⟩
  rw [elementOf?, openingOf?_append_of_some hopening, Option.bind_some]
  exact closingOf?_append_of_some hclosing more

theorem Holds.prepend (h : Holds tag content marks) (before : List Mark)
    (hbefore : lacks tag before = true) : Holds tag content (before ++ marks) := by
  obtain ⟨after, h⟩ := h
  exact ⟨after, by rw [elementOf?, openingOf?_append hbefore]; exact h⟩

/-- An element holds what its lines hold. -/
theorem Holds.block (h : Holds tag content (lines depth children)) (hne : tag ≠ tag') :
    Holds tag content (block depth tag' rest children) := by
  have hopening : lacks tag [.opening tag' rest] = true := by simp [lacks, opens?, closes, hne]
  exact (h.append [.closing tag']).prepend [_] hopening

theorem lacks_flatMap_lineBreak {front : List (List Mark)} (hfront : front.all (lacks tag) = true)
    (depth : Nat) :
    lacks tag (front.flatMap (lineBreak depth :: ·) ++ [lineBreak depth]) = true := by
  rw [lacks_append, Bool.and_eq_true, lacks, List.all_flatMap]
  exact ⟨hfront, rfl⟩

/-- Lines hold what one of them holds unless there is such an element before. -/
theorem Holds.lines (h : Holds tag content marks) (front back : List (List Mark))
    (hfront : front.all (lacks tag) = true) (depth : Nat) :
    Holds tag content (lines depth (front ++ marks :: back)) := by
  have := (h.append (back.flatMap (lineBreak (depth + 1) :: ·) ++ [lineBreak depth])).prepend
    _ (lacks_flatMap_lineBreak hfront (depth + 1))
  simpa [KeyContainer.lines] using this

end Mark

/-! ## Contents -/

theorem element?_of_holds (tag : Tag) {marks content : List Mark} (hmarks : ∀ m ∈ marks, m.IsSound)
    (h : Mark.Holds tag content marks) :
    element? tag.name (render marks) = some (Text.trim (render content)) := by
  obtain ⟨after, h⟩ := h
  exact element?_render tag hmarks h

/-- The value of an element without elements in it. -/
theorem element?_leaf (tag : Tag) {marks : List Mark} {value : List Char}
    (hmarks : ∀ m ∈ marks, m.IsSound) (h : Mark.Holds tag [.text value] marks) :
    element? tag.name (render marks) = some (Text.trim value) := by
  rw [element?_of_holds tag hmarks h]
  simp [render, Mark.chars]

/-- Line breaks around elements are no part of a content. -/
theorem trim_render_lineBreaks {depth depth' : Nat} {content marks : List Mark} {tag tag' : Tag}
    {rest : List Char} (h : content = lineBreak depth :: (marks ++ [lineBreak depth']))
    (hfirst : marks.head? = some (.opening tag rest))
    (hlast : marks.getLast? = some (.closing tag')) :
    Text.trim (render content) = render marks := by
  have hblank : ∀ d, ∀ c ∈ '\n' :: List.replicate (2 * d) ' ', Text.isBlank c = true := by
    intro d
    rw [List.forall_mem_cons]
    exact ⟨by decide, fun c hc => by rw [List.eq_of_mem_replicate hc]; decide⟩
  exact trim_render_surrounded h (hblank depth) (hblank depth') hfirst hlast

end TokenInventory.KeyContainer
