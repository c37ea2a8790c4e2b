import TokenInventory.KeyContainer.Writer
import TokenInventory.Proofs.KeyContainer.Markup

/-!
# The marks of a written container

What a writer writes is the text of marks: those of the head (`toList_headText`) and those of each
key package (`toList_text`).
-/

namespace TokenInventory.KeyContainer

/-! ## Elements in lines -/

/-- The end of a line and the start of the next one, at a depth. -/
def lineBreak (depth : Nat) : Mark :=
  .text ('\n' :: List.replicate (2 * depth) ' ')

/-- An element with a text in it. -/
def leaf (tag : Tag) (value : List Char) : List Mark :=
  [.opening tag [], .text value, .closing tag]

/-- Elements in an element, each on a line of its own. -/
def lines (depth : Nat) (children : List (List Mark)) : List Mark :=
  children.flatMap (lineBreak (depth + 1) :: ·) ++ [lineBreak depth]

/-- An element with elements in it. -/
def block (depth : Nat) (tag : Tag) (rest : List Char) (children : List (List Mark)) : List Mark :=
  .opening tag rest :: (lines depth children ++ [.closing tag])

/-- An attribute of a tag. -/
def attributeText (label : String) (value : List Char) : List Char :=
  ' ' :: (label.toList ++ '=' :: '"' :: (value ++ ['"']))

/-- What holds an encrypted value. -/
def cipherChildren (depth : Nat) (value : List Char) : List (List Mark) :=
  [[.opening .encryptionMethod (attributeText "Algorithm" cipherName.toList ++ ['/'])],
    block depth .cipherData [] [leaf .cipherValue value]]

/-- The marks of the head of a container. -/
def headMarks (id macKey : List Char) : List Mark :=
  [.instruction "xml version=\"1.0\" encoding=\"UTF-8\"?>\n".toList,
    .opening .keyContainer
      (attributeText "Version" "1.0".toList ++ attributeText "Id" id ++
        attributeText "xmlns" namespaceName.toList ++
        attributeText "xmlns:ds" "http://www.w3.org/2000/09/xmldsig#".toList ++
        attributeText "xmlns:xenc" "http://www.w3.org/2001/04/xmlenc#".toList),
    lineBreak 1] ++
  block 1 .encryptionKey [] [leaf .keyName "Pre-shared-key".toList] ++
  lineBreak 1 ::
    (block 1 .macMethod (attributeText "Algorithm" macName.toList)
      [block 2 .macKey [] (cipherChildren 3 macKey)] ++
    [.text ['\n']])

set_option maxRecDepth 4000 in
theorem toList_headText (id macKey : String) :
    (headText id macKey).toList = render (headMarks id.toList macKey.toList) := by
  unfold headText
  simp only [String.toList_append, -String.reduceToList, -String.reduceAppend]
  simp only [render, headMarks, block, lines, leaf, lineBreak, cipherChildren, attributeText,
    List.flatMap_cons, List.flatMap_nil, Mark.chars, Tag.label, Tag.name,
    List.append_assoc, List.cons_append, List.nil_append, -String.reduceToList]
  repeat rw [String.toList_ofList]
  rfl

/-! ## Key packages -/

/-- What a key package is written from. The text in place of its signature may be any without tags
in it. -/
structure Packaged where
  token : Token
  type : PasswordType
  owner : Option User
  seed : List UInt8
  /-- The sealed seed. -/
  sealed : List UInt8
  mac : List Char
  lt_not_mem_mac : '<' ∉ mac

/-- The mark of what changes from one password to the next. -/
def movingFactorMarks (token : Token) : PasswordType → List Mark
  | .counterBased =>
    .opening .counter [] ::
      (leaf .plainValue (Text.ofInt64 token.counter).toList ++ [.closing .counter])
  | .timeBased =>
    .opening .timeInterval [] ::
      (leaf .plainValue (escape token.timeStep.toList) ++ [.closing .timeInterval])

/-- The element of an owner, if there is one. -/
def userChildren : Option User → List (List Mark)
  | none => []
  | some user => [leaf .userId (escape user.login.toList)]

/-- The elements of the secret of a package. -/
def secretChildren (p : Packaged) : List (List Mark) :=
  [block 5 .encryptedValue [] (cipherChildren 6 (Base64.encode p.sealed)), leaf .valueMac p.mac]

/-- The elements of the key of a package. -/
def keyChildren (p : Packaged) : List (List Mark) :=
  [leaf .issuer issuer.toList,
    block 3 .algorithmParameters []
      [[.opening .responseFormat
        (attributeText "Length" (Text.ofInt64 p.token.passwordLength).toList ++
          (attributeText "Encoding" "DECIMAL".toList ++ ['/']))]],
    block 3 .data [] [block 4 .secret [] (secretChildren p), movingFactorMarks p.token p.type]] ++
    userChildren p.owner ++ [leaf .friendlyName (escape p.token.description.toList)]

/-- The elements of a key package. -/
def packageChildren (p : Packaged) : List (List Mark) :=
  [block 2 .deviceInfo []
      [leaf .manufacturer issuer.toList, leaf .serialNo (escape p.token.serial.toList)],
    block 2 .key
      (attributeText "Id" (escape p.token.serial.toList) ++
        attributeText "Algorithm" (algorithmPrefix ++ p.type.name).toList)
      (keyChildren p)]

/-- The marks of a key package. -/
def packageMarks (p : Packaged) : List Mark :=
  .text [' ', ' '] ::
    (block 1 .keyPackage [] (packageChildren p) ++ [.text ['\n']])

theorem toList_movingFactor (token : Token) (type : PasswordType) :
    (movingFactor token type).toList =
      render (.text (List.replicate 8 ' ') ::
        (movingFactorMarks token type ++ [.text ['\n']])) := by
  unfold movingFactor
  cases type <;>
  · simp only [escaped, String.toList_append, -String.reduceToList, -String.reduceAppend]
    simp only [render, movingFactorMarks, leaf, List.flatMap_cons, List.flatMap_nil, Mark.chars,
      Tag.label, Tag.name, List.append_assoc, List.cons_append, List.nil_append,
      -String.reduceToList]
    repeat rw [String.toList_ofList]
    rfl

theorem toList_userLine (owner : Option User) : (userLine owner).toList =
    render ((userChildren owner).flatMap fun child =>
      .text (List.replicate 6 ' ') :: (child ++ [.text ['\n']])) := by
  unfold userLine
  cases owner with
  | none => rfl
  | some user =>
    simp only [escaped, String.toList_append, -String.reduceToList, -String.reduceAppend]
    simp only [render, userChildren, leaf, List.flatMap_cons, List.flatMap_nil, Mark.chars,
      Tag.label, Tag.name, List.append_assoc, List.cons_append, List.nil_append,
      -String.reduceToList]
    repeat rw [String.toList_ofList]
    rfl

/-- What a writer says about a token. -/
def Packaged.texts (p : Packaged) : PackageTexts where
  serial := escaped p.token.serial
  type := p.type.name
  passwordLength := Text.ofInt64 p.token.passwordLength
  cipherValue := base64Text p.sealed
  valueMac := String.ofList p.mac
  movingFactor := movingFactor p.token p.type
  userLine := userLine p.owner
  description := escaped p.token.description

set_option maxRecDepth 4000 in
theorem toList_text (p : Packaged) : p.texts.text.toList = render (packageMarks p) := by
  obtain ⟨token, type, owner, seed, sealed, mac, hmac⟩ := p
  unfold PackageTexts.text Packaged.texts
  simp only [String.toList_append, toList_movingFactor, toList_userLine, escaped, base64Text,
    -String.reduceToList, -String.reduceAppend]
  cases owner <;>
  · simp only [render, packageMarks, packageChildren, keyChildren, secretChildren, userChildren,
      block, lines, leaf, lineBreak, cipherChildren, attributeText, String.toList_append,
      List.flatMap_cons, List.flatMap_nil, List.flatMap_append, Mark.chars, Tag.label, Tag.name,
      List.append_assoc, List.cons_append, List.nil_append, -String.reduceToList]
    repeat rw [String.toList_ofList]
    rfl

end TokenInventory.KeyContainer
