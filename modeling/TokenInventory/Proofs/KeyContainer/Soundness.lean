import TokenInventory.Proofs.Bytes.Base64
import TokenInventory.Proofs.KeyContainer.Escape
import TokenInventory.Proofs.KeyContainer.Layout
import TokenInventory.Proofs.Text.Decimal

/-!
# Written containers are sound

No text that a writer puts between or into tags holds a part of a tag (`IsPlain`), since it is
escaped or has no such characters. So the marks of heads and of key packages are sound
(`isSound_headMarks`, `isSound_packageMarks`).
-/

namespace TokenInventory.KeyContainer

/-- Whether a text holds no part of a tag. -/
def IsPlain (s : List Char) : Prop :=
  ∀ c ∈ s, c ≠ '<' ∧ c ≠ '>'

instance (s : List Char) : Decidable (IsPlain s) :=
  List.decidableBAll _ s

theorem IsPlain.append {s t : List Char} (hs : IsPlain s) (ht : IsPlain t) : IsPlain (s ++ t) :=
  List.forall_mem_append.2 ⟨hs, ht⟩

theorem IsPlain.attributeText {label : String} {value : List Char} (hlabel : IsPlain label.toList)
    (hvalue : IsPlain value) : IsPlain (attributeText label value) := by
  have hquote : IsPlain ['"'] := by decide
  have hvalue : IsPlain ('=' :: '"' :: (value ++ ['"'])) :=
    (show IsPlain ['=', '"'] by decide).append (hvalue.append hquote)
  exact (show IsPlain [' '] by decide).append (hlabel.append hvalue)

theorem isPlain_escape (s : List Char) : IsPlain (escape s) := fun c hc =>
  ⟨(not_special_of_mem_escape c hc).1, (not_special_of_mem_escape c hc).2.1⟩

theorem isPlain_base64 (bytes : List UInt8) : IsPlain (Base64.encode bytes) :=
  Base64.forall_mem_encode (by decide) (by decide) bytes

theorem isPlain_ofInt64 (x : Int64) : IsPlain (Text.ofInt64 x).toList := by
  refine Text.forall_mem_ofInt64 (fun c hdigit => ?_) (by decide) x
  constructor <;> rintro rfl <;> cases hdigit

theorem isPlain_hex (bytes : List UInt8) : IsPlain (Hex.encode bytes) := by
  have hdigit : ∀ n < 16, Hex.digit n ≠ '<' ∧ Hex.digit n ≠ '>' := by decide
  induction bytes with
  | nil => exact List.forall_mem_nil _
  | cons b bytes ih =>
    have := b.toNat_lt
    rw [Hex.encode, IsPlain, List.forall_mem_cons, List.forall_mem_cons]
    exact ⟨hdigit _ (by omega), hdigit _ (by omega), ih⟩

theorem isPlain_identifier (bytes : List UInt8) : IsPlain (identifier bytes).toList := by
  have hdash : IsPlain ['-'] := by decide
  simp only [identifier, Text.joinWith, String.toList_append, String.toList_ofList]
  exact .append (.append (isPlain_hex _) hdash) (.append (.append (isPlain_hex _) hdash)
    (.append (.append (isPlain_hex _) hdash) (.append (.append (isPlain_hex _) hdash)
      (isPlain_hex _))))

theorem isSound_opening_nil (tag : Tag) : (Mark.opening tag []).IsSound :=
  ⟨List.not_mem_nil, List.not_mem_nil, fun c hc => by cases hc; decide⟩

theorem isSound_opening {tag : Tag} {rest : List Char} (hblank : rest.head? = some ' ')
    (h : IsPlain rest) : (Mark.opening tag rest).IsSound := by
  refine ⟨fun hlt => (h _ hlt).1 rfl, fun hgt => (h _ hgt).2 rfl, fun c hc => ?_⟩
  obtain ⟨s, rfl⟩ := List.head?_eq_some_iff.1 hblank
  cases hc
  decide

theorem isSound_text {s : List Char} (h : IsPlain s) : (Mark.text s).IsSound := fun hlt =>
  (h _ hlt).1 rfl

theorem isSound_lineBreak (depth : Nat) : (lineBreak depth).IsSound := by
  simp [lineBreak, Mark.IsSound]

theorem isSound_leaf_of_not_mem (tag : Tag) {value : List Char} (h : '<' ∉ value) :
    ∀ m ∈ leaf tag value, m.IsSound := by
  simp only [leaf, List.forall_mem_cons, List.not_mem_nil, false_implies, implies_true, and_true]
  exact ⟨isSound_opening_nil tag, h, trivial⟩

theorem isSound_leaf (tag : Tag) {value : List Char} (h : IsPlain value) :
    ∀ m ∈ leaf tag value, m.IsSound :=
  isSound_leaf_of_not_mem tag fun hlt => (h _ hlt).1 rfl

theorem isSound_lines (depth : Nat) {children : List (List Mark)}
    (hchildren : ∀ child ∈ children, ∀ m ∈ child, m.IsSound) :
    ∀ m ∈ lines depth children, m.IsSound := by
  intro m hm
  rw [lines, List.mem_append, List.mem_flatMap] at hm
  rcases hm with ⟨child, hchild, hm⟩ | hm
  · rcases List.mem_cons.1 hm with rfl | hm
    · exact isSound_lineBreak _
    · exact hchildren child hchild m hm
  · rw [List.mem_singleton.1 hm]
    exact isSound_lineBreak _

theorem isSound_block (depth : Nat) {tag : Tag} {rest : List Char} {children : List (List Mark)}
    (hrest : (Mark.opening tag rest).IsSound)
    (hchildren : ∀ child ∈ children, ∀ m ∈ child, m.IsSound) :
    ∀ m ∈ block depth tag rest children, m.IsSound := by
  rw [block, List.forall_mem_cons, List.forall_mem_append, List.forall_mem_singleton]
  exact ⟨hrest, isSound_lines depth hchildren, trivial⟩

/-! ## Heads and packages -/

theorem isSound_cipherChildren (depth : Nat) (bytes : List UInt8) :
    ∀ child ∈ cipherChildren depth (Base64.encode bytes), ∀ m ∈ child, m.IsSound := by
  have hmethod : (Mark.opening .encryptionMethod
      (attributeText "Algorithm" cipherName.toList ++ ['/'])).IsSound :=
    isSound_opening rfl (.append (.attributeText (by decide) (by decide)) (by decide))
  simp only [cipherChildren, List.forall_mem_cons, List.not_mem_nil, false_implies, implies_true,
    and_true]
  refine ⟨hmethod, isSound_block _ (isSound_opening_nil _) ?_⟩
  simp only [List.forall_mem_cons, List.not_mem_nil, false_implies, implies_true, and_true]
  exact isSound_leaf _ (isPlain_base64 bytes)

/-- The marks of a head are sound. -/
theorem isSound_headMarks {id : List Char} (hid : IsPlain id) (bytes : List UInt8) :
    ∀ m ∈ headMarks id (Base64.encode bytes), m.IsSound := by
  have hopening : (Mark.opening .keyContainer
      (attributeText "Version" "1.0".toList ++ attributeText "Id" id ++
        attributeText "xmlns" namespaceName.toList ++
        attributeText "xmlns:ds" "http://www.w3.org/2000/09/xmldsig#".toList ++
        attributeText "xmlns:xenc" "http://www.w3.org/2001/04/xmlenc#".toList)).IsSound := by
    refine isSound_opening rfl (.append (.append (.append (.append ?_ ?_) ?_) ?_) ?_)
    · exact .attributeText (by decide) (by decide)
    · exact .attributeText (by decide) hid
    · exact .attributeText (by decide) (by decide)
    · exact .attributeText (by decide) (by decide)
    · exact .attributeText (by decide) (by decide)
  have hinstruction :
      (Mark.instruction "xml version=\"1.0\" encoding=\"UTF-8\"?>\n".toList).IsSound :=
    show '<' ∉ _ by decide
  have hmethod : (Mark.opening .macMethod (attributeText "Algorithm" macName.toList)).IsSound :=
    isSound_opening rfl (.attributeText (by decide) (by decide))
  have hname := isSound_leaf .keyName (show IsPlain "Pre-shared-key".toList by decide)
  have hkey := isSound_block 1 (isSound_opening_nil .encryptionKey)
    (List.forall_mem_singleton.2 hname)
  have hmac := isSound_block 1 hmethod (List.forall_mem_singleton.2
    (isSound_block 2 (isSound_opening_nil .macKey) (isSound_cipherChildren 3 bytes)))
  simp only [headMarks, List.forall_mem_append, List.forall_mem_cons, List.not_mem_nil,
    false_implies, implies_true, and_true]
  exact ⟨⟨⟨hinstruction, hopening, isSound_lineBreak 1⟩, hkey⟩, isSound_lineBreak 1, hmac,
    isSound_text (by decide)⟩

theorem isSound_movingFactorMarks (token : Token) (type : PasswordType) :
    ∀ m ∈ movingFactorMarks token type, m.IsSound := by
  cases type <;>
    simp only [movingFactorMarks, List.forall_mem_append, List.forall_mem_cons, List.not_mem_nil,
      false_implies, implies_true, and_true]
  · exact ⟨isSound_opening_nil _, isSound_leaf _ (isPlain_ofInt64 _), trivial⟩
  · exact ⟨isSound_opening_nil _, isSound_leaf _ (isPlain_escape _), trivial⟩

theorem isSound_userChildren (owner : Option User) :
    ∀ child ∈ userChildren owner, ∀ m ∈ child, m.IsSound := by
  cases owner with
  | none => exact List.forall_mem_nil _
  | some user =>
    simp only [userChildren, List.forall_mem_cons, List.not_mem_nil, false_implies, implies_true,
      and_true]
    exact isSound_leaf _ (isPlain_escape _)

theorem isSound_secretChildren (p : Packaged) :
    ∀ child ∈ secretChildren p, ∀ m ∈ child, m.IsSound := by
  simp only [secretChildren, List.forall_mem_cons, List.not_mem_nil, false_implies, implies_true,
    and_true]
  exact ⟨isSound_block _ (isSound_opening_nil _) (isSound_cipherChildren 6 p.sealed),
    isSound_leaf_of_not_mem _ p.lt_not_mem_mac⟩

theorem isSound_keyChildren (p : Packaged) :
    ∀ child ∈ keyChildren p, ∀ m ∈ child, m.IsSound := by
  have hformat : (Mark.opening .responseFormat
      (attributeText "Length" (Text.ofInt64 p.token.passwordLength).toList ++
        (attributeText "Encoding" "DECIMAL".toList ++ ['/']))).IsSound := by
    refine isSound_opening rfl
      (.append (.attributeText (by decide) (isPlain_ofInt64 _)) (.append ?_ ?_))
    · exact .attributeText (by decide) (by decide)
    · decide
  have hparameters := isSound_block 3 (isSound_opening_nil .algorithmParameters)
    (List.forall_mem_singleton.2 (List.forall_mem_singleton.2 hformat))
  have hsecret := isSound_block 4 (isSound_opening_nil .secret) (isSound_secretChildren p)
  have hdata := isSound_block 3 (isSound_opening_nil .data) (List.forall_mem_cons.2
    ⟨hsecret, List.forall_mem_singleton.2 (isSound_movingFactorMarks p.token p.type)⟩)
  simp only [keyChildren, List.forall_mem_append, List.forall_mem_cons, List.not_mem_nil,
    false_implies, implies_true, and_true]
  exact ⟨⟨⟨isSound_leaf _ (by decide), hparameters, hdata⟩, isSound_userChildren _⟩,
    isSound_leaf _ (isPlain_escape _)⟩

theorem isSound_packageChildren (p : Packaged) :
    ∀ child ∈ packageChildren p, ∀ m ∈ child, m.IsSound := by
  have hname : IsPlain (algorithmPrefix ++ p.type.name).toList := by
    cases p.type <;> decide
  have hkey : (Mark.opening .key (attributeText "Id" (escape p.token.serial.toList) ++
      attributeText "Algorithm" (algorithmPrefix ++ p.type.name).toList)).IsSound :=
    isSound_opening rfl (.append (.attributeText (by decide) (isPlain_escape _))
      (.attributeText (by decide) hname))
  have hmanufacturer := isSound_leaf .manufacturer (show IsPlain issuer.toList by decide)
  have hinfo := isSound_block 2 (isSound_opening_nil .deviceInfo) (List.forall_mem_cons.2
    ⟨hmanufacturer, List.forall_mem_singleton.2
      (isSound_leaf .serialNo (isPlain_escape p.token.serial.toList))⟩)
  simp only [packageChildren, List.forall_mem_cons, List.not_mem_nil, false_implies, implies_true,
    and_true]
  exact ⟨hinfo, isSound_block _ hkey (isSound_keyChildren p)⟩

/-- The marks of a key package are sound, whatever the package says. -/
theorem isSound_packageMarks (p : Packaged) : ∀ m ∈ packageMarks p, m.IsSound := by
  simp only [packageMarks, List.forall_mem_append, List.forall_mem_cons, List.not_mem_nil,
    false_implies, implies_true, and_true]
  exact ⟨isSound_text (by decide),
    isSound_block _ (isSound_opening_nil _) (isSound_packageChildren p),
    isSound_text (by decide)⟩

end TokenInventory.KeyContainer
