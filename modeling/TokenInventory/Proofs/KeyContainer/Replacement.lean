import TokenInventory.Proofs.KeyContainer.Package

/-!
# Replacing a signature

In the text of sound marks every `<` begins a mark (`exists_mark_of_lt`), so the text of an element
that is there once can be replaced in one place only. For a key package the result is the text of
the package with the other text in place of its signature (`isForged_iff`).
-/

namespace TokenInventory.KeyContainer

/-! ## Marks that differ in one value -/

namespace Mark

/-- Whether marks differ only in the value of an element, which is there once. -/
def DifferIn (tag : Tag) (value value' : List Char) (marks marks' : List Mark) : Prop :=
  ∃ front back, lacks tag front = true ∧ lacks tag back = true ∧
    marks = front ++ (leaf tag value ++ back) ∧ marks' = front ++ (leaf tag value' ++ back)

variable {tag tag' : Tag} {value value' : List Char} {marks marks' : List Mark}
  {children children' : List (List Mark)} {depth : Nat}

theorem differIn_leaf (tag : Tag) (value value' : List Char) :
    DifferIn tag value value' (leaf tag value) (leaf tag value') :=
  ⟨[], [], rfl, rfl, by simp, by simp⟩

theorem DifferIn.surround (h : DifferIn tag value value' marks marks') (before after : List Mark)
    (hbefore : lacks tag before = true) (hafter : lacks tag after = true) :
    DifferIn tag value value' (before ++ (marks ++ after)) (before ++ (marks' ++ after)) := by
  obtain ⟨front, back, hfront, hback, rfl, rfl⟩ := h
  refine ⟨before ++ front, back ++ after, ?_, ?_, by simp, by simp⟩
  · rw [lacks_append, hbefore, hfront]
    rfl
  · rw [lacks_append, hback, hafter]
    rfl

/-- Lines differ as one of them does. -/
theorem DifferIn.lines (h : DifferIn tag value value' marks marks') (front back : List (List Mark))
    (hfront : front.all (lacks tag) = true) (hback : back.all (lacks tag) = true) (depth : Nat) :
    DifferIn tag value value' (lines depth (front ++ marks :: back))
      (lines depth (front ++ marks' :: back)) := by
  have hbefore := lacks_flatMap_lineBreak hfront (depth + 1)
  have hafter : lacks tag (KeyContainer.lines depth back) = true := by rw [lacks_lines, hback]
  simpa [KeyContainer.lines] using h.surround _ _ hbefore hafter

/-- An element differs as its lines do. -/
theorem DifferIn.block
    (h : DifferIn tag value value' (KeyContainer.lines depth children)
      (KeyContainer.lines depth children')) (hne : tag ≠ tag') (rest : List Char) :
    DifferIn tag value value' (block depth tag' rest children)
      (block depth tag' rest children') := by
  have hbefore : lacks tag [.opening tag' rest] = true := by simp [lacks, opens?, closes, hne]
  have hafter : lacks tag [.closing tag'] = true := by simp [lacks, opens?, closes, hne]
  exact h.surround _ _ hbefore hafter

end Mark

/-! ## Where a mark begins -/

theorem Mark.IsSound.lt_not_mem_tail {mark : Mark} (h : mark.IsSound) : '<' ∉ mark.chars.tail := by
  cases mark with
  | text s => exact fun hlt => h (List.mem_of_mem_tail hlt)
  | instruction s =>
    have hs : '<' ∉ s := h
    simp [chars, hs]
  | opening tag rest => simp [chars, lt_not_mem_label, h.1]
  | closing tag => simp [chars, lt_not_mem_label]

/-- In the text of sound marks every `<` begins a mark. -/
theorem exists_mark_of_lt {marks : List Mark} (hmarks : ∀ m ∈ marks, m.IsSound)
    {before after : List Char} (h : render marks = before ++ '<' :: after) :
    ∃ front mark back s, marks = front ++ mark :: back ∧ render front = before ∧
      mark.chars = '<' :: s ∧ after = s ++ render back := by
  induction marks generalizing before with
  | nil => simp [render] at h
  | cons mark marks ih =>
    obtain ⟨hmark, hrest⟩ := List.forall_mem_cons.1 hmarks
    have hlater (before' : List Char) (hbefore : before = mark.chars ++ before')
        (h : render marks = before' ++ '<' :: after) :
        ∃ front mark' back s, mark :: marks = front ++ mark' :: back ∧ render front = before ∧
          mark'.chars = '<' :: s ∧ after = s ++ render back := by
      obtain ⟨front, mark', back, s, rfl, rfl, hchars, hafter⟩ := ih hrest h
      exact ⟨mark :: front, mark', back, s, rfl, hbefore.symm, hchars, hafter⟩
    rw [render_cons] at h
    rcases List.append_eq_append_iff.1 h with ⟨before', hbefore, h⟩ | ⟨s, hchars, h⟩
    · exact hlater before' hbefore h
    · cases s with
      | nil => exact hlater [] (by simpa using hchars.symm) h.symm
      | cons c s =>
        obtain ⟨rfl, rfl⟩ := List.cons_eq_cons.1 h
        -- Only the first character of a mark can be the one in question.
        cases before with
        | nil => exact ⟨[], mark, marks, s, rfl, rfl, hchars, rfl⟩
        | cons d before =>
          refine absurd ?_ hmark.lt_not_mem_tail
          rw [hchars]
          simp

/-- A tag that opens an element is written only where the element begins. -/
theorem exists_opening_of_render {marks : List Mark} (hmarks : ∀ m ∈ marks, m.IsSound) {tag : Tag}
    {before after : List Char}
    (h : render marks = before ++ ((Mark.opening tag []).chars ++ after)) : ∃ front back,
      marks = front ++ .opening tag [] :: back ∧ render front = before ∧ render back = after := by
  have hlt : (Mark.opening tag []).chars ++ after = '<' :: (tag.label.toList ++ '>' :: after) := by
    simp [Mark.chars]
  rw [hlt] at h
  obtain ⟨front, mark, back, s, rfl, hbefore, hchars, hafter⟩ := exists_mark_of_lt hmarks h
  have hmark := hmarks mark (by simp)
  have hgt : EndsName ('>' :: after) := fun c hc => by cases hc; decide
  have hname := afterName_label tag tag hgt
  rw [if_pos rfl, hafter] at hname
  cases hopens : mark.opens? tag with
  | none =>
    rcases chars_cases hmark hopens (render back) with hmem | ⟨s', hchars', -, hnone⟩
    · exact absurd (hchars ▸ List.mem_cons_self) hmem
    · obtain rfl := List.tail_eq_of_cons_eq (hchars.symm.trans hchars')
      cases hnone.symm.trans hname
  | some rest =>
    obtain rfl := eq_opening_of_opens? hopens
    obtain rfl : s = tag.label.toList ++ (rest ++ ['>']) := (List.tail_eq_of_cons_eq hchars).symm
    have hrest : '>' :: after = rest ++ '>' :: render back := by
      simpa using hafter
    cases rest with
    | nil => exact ⟨front, back, rfl, hbefore, (List.tail_eq_of_cons_eq hrest).symm⟩
    | cons c rest =>
      cases hrest
      exact absurd List.mem_cons_self hmark.2.1

theorem Mark.opening_not_mem_of_lacks {tag : Tag} {marks : List Mark} (h : lacks tag marks = true)
    (rest : List Char) : Mark.opening tag rest ∉ marks := fun hmem => by
  have := List.all_eq_true.1 h _ hmem
  simp [opens?] at this

/-- An element that is there once is written once. -/
theorem Mark.DifferIn.render_eq {tag : Tag} {value value' : List Char} {marks marks' : List Mark}
    (h : DifferIn tag value value' marks marks') (hmarks : ∀ m ∈ marks, m.IsSound)
    (hvalue : '<' ∉ value) {before written after : List Char} (hwritten : '<' ∉ written)
    (htext : render marks = before ++ (render (leaf tag written) ++ after)) :
    written = value ∧ render marks' = before ++ (render (leaf tag value') ++ after) := by
  obtain ⟨front, back, hfront, hback, rfl, rfl⟩ := h
  have hleaf (v : List Char) (r : List Char) : render (leaf tag v) ++ r =
      (Mark.opening tag []).chars ++ (v ++ ((Mark.closing tag).chars ++ r)) := by
    simp [leaf, render, chars]
  rw [hleaf] at htext
  obtain ⟨front', back', heq, rfl, hafter⟩ := exists_opening_of_render hmarks htext
  have hnot : Mark.opening tag [] ∉ .text value :: .closing tag :: back := by
    simpa using opening_not_mem_of_lacks hback []
  obtain ⟨rfl, -, rfl⟩ :=
    (List.append_cons_inj_of_notMem (opening_not_mem_of_lacks hfront []) hnot).1 heq
  have hsplit := congrArg (Text.splitFirst? '<') hafter
  simp only [render_cons, chars, List.cons_append, Text.splitFirst?_append hvalue,
    Text.splitFirst?_append hwritten, Option.some.injEq, Prod.mk.injEq, List.cons.injEq, true_and,
    List.append_cancel_left_eq] at hsplit
  obtain ⟨rfl, rfl⟩ := hsplit
  refine ⟨rfl, ?_⟩
  rw [render_append, render_append]

/-! ## The signature of a package -/

/-- A package with another text in place of its signature. -/
def Packaged.withMac (p : Packaged) (mac : List Char) (h : '<' ∉ mac) : Packaged :=
  { p with mac, lt_not_mem_mac := h }

@[simp]
theorem Packaged.token_withMac (p : Packaged) {mac : List Char} (h : '<' ∉ mac) :
    (p.withMac mac h).token = p.token :=
  rfl

@[simp]
theorem Packaged.described_withMac (p : Packaged) {mac : List Char} (h : '<' ∉ mac) :
    (p.withMac mac h).described = p.described :=
  rfl

/-- Packages with different texts in place of the signature differ in nothing else. -/
theorem Packaged.differIn_withMac (p : Packaged) {mac : List Char} (h : '<' ∉ mac) :
    Mark.DifferIn .valueMac p.mac mac (packageMarks p) (packageMarks (p.withMac mac h)) := by
  have hmoving : Mark.lacks .valueMac (movingFactorMarks p.token p.type) = true := by
    cases p.type <;> rfl
  have hlast : (userChildren p.owner ++
      [leaf .friendlyName (escape p.token.description.toList)]).all (Mark.lacks .valueMac) =
        true := by
    cases p.owner <;> rfl
  have hsecret : Mark.DifferIn .valueMac p.mac mac (lines 4 (secretChildren p))
      (lines 4 (secretChildren (p.withMac mac h))) :=
    (Mark.differIn_leaf .valueMac p.mac mac).lines [_] [] rfl rfl 4
  have hdata : Mark.DifferIn .valueMac p.mac mac
      (lines 3 [block 4 .secret [] (secretChildren p), movingFactorMarks p.token p.type])
      (lines 3 [block 4 .secret [] (secretChildren (p.withMac mac h)),
        movingFactorMarks p.token p.type]) :=
    (hsecret.block (by decide) []).lines [] [_] rfl (by rw [List.all_cons, hmoving]; rfl) 3
  have hkey : Mark.DifferIn .valueMac p.mac mac (lines 2 (keyChildren p))
      (lines 2 (keyChildren (p.withMac mac h))) :=
    (hdata.block (by decide) []).lines [_, _] _ rfl hlast 2
  have hpackage : Mark.DifferIn .valueMac p.mac mac (lines 1 (packageChildren p))
      (lines 1 (packageChildren (p.withMac mac h))) :=
    (hkey.block (by decide) _).lines [_] [] rfl rfl 1
  exact (hpackage.block (by decide) []).surround [.text [' ', ' ']] [.text ['\n']] rfl rfl

/-- A text with the text of a signature in it. -/
def withSignature (before mac after : List Char) : List Char :=
  before ++ ("<ValueMAC>".toList ++ (mac ++ ("</ValueMAC>".toList ++ after)))

/-- Whether a text is another one with its signature replaced by a text without tags that is
not the same, blanks at the ends aside. -/
def IsForged (text forged : String) : Prop :=
  ∃ before mac mac' after, text.toList = withSignature before mac after ∧ '<' ∉ mac ∧
    forged.toList = withSignature before mac' after ∧ '<' ∉ mac' ∧ Text.trim mac' ≠ Text.trim mac

theorem withSignature_eq (before mac after : List Char) :
    withSignature before mac after = before ++ (render (leaf .valueMac mac) ++ after) := by
  simp [withSignature, leaf, render, Mark.chars, Tag.label, Tag.name]

/-- Forging the text of a package is putting another text in place of its signature. -/
theorem isForged_iff {p : Packaged} {forged : String} : IsForged p.texts.text forged ↔
    ∃ mac, ∃ h : '<' ∉ mac, Text.trim mac ≠ Text.trim p.mac ∧
      forged = (p.withMac mac h).texts.text := by
  constructor
  · rintro ⟨before, mac, mac', after, htext, hmac, hforged, hmac', hne⟩
    rw [toList_text, withSignature_eq] at htext
    obtain ⟨rfl, hrender⟩ := (p.differIn_withMac hmac').render_eq (isSound_packageMarks p)
      p.lt_not_mem_mac hmac htext
    refine ⟨mac', hmac', hne, String.toList_inj.1 ?_⟩
    rw [hforged, toList_text, hrender, withSignature_eq]
  · rintro ⟨mac, hmac, hne, rfl⟩
    obtain ⟨front, back, -, -, hmarks, hmarks'⟩ := p.differIn_withMac hmac
    refine ⟨render front, p.mac, mac, render back, ?_, p.lt_not_mem_mac, ?_, hmac, hne⟩
    · rw [toList_text, hmarks, withSignature_eq, render_append, render_append]
    · rw [toList_text, hmarks', withSignature_eq, render_append, render_append]

end TokenInventory.KeyContainer
