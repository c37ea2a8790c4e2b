import Mathlib.Data.List.Nodup
import TokenInventory.KeyContainer.Element

/-!
# Tags of a container

The elements of a container and what stands in their tags. Names consist of word characters, so a
name is found in a tag only if it is the name of the tag's element (`afterName_label`,
`stripClosing?_label`), with a namespace before it or without.
-/

namespace TokenInventory.KeyContainer

/-- The elements of a container. -/
inductive Tag
  | keyContainer | encryptionKey | keyName | macMethod | macKey | encryptionMethod | cipherData
  | cipherValue | keyPackage | deviceInfo | manufacturer | serialNo | key | issuer
  | algorithmParameters | responseFormat | data | secret | encryptedValue | valueMac | counter
  | plainValue | timeInterval | userId | friendlyName
  deriving DecidableEq

namespace Tag

/-- The name of an element. -/
def name : Tag → String
  | keyContainer => "KeyContainer"
  | encryptionKey => "EncryptionKey"
  | keyName => "KeyName"
  | macMethod => "MACMethod"
  | macKey => "MACKey"
  | encryptionMethod => "EncryptionMethod"
  | cipherData => "CipherData"
  | cipherValue => "CipherValue"
  | keyPackage => "KeyPackage"
  | deviceInfo => "DeviceInfo"
  | manufacturer => "Manufacturer"
  | serialNo => "SerialNo"
  | key => "Key"
  | issuer => "Issuer"
  | algorithmParameters => "AlgorithmParameters"
  | responseFormat => "ResponseFormat"
  | data => "Data"
  | secret => "Secret"
  | encryptedValue => "EncryptedValue"
  | valueMac => "ValueMAC"
  | counter => "Counter"
  | plainValue => "PlainValue"
  | timeInterval => "TimeInterval"
  | userId => "UserId"
  | friendlyName => "FriendlyName"

/-- What stands in a tag: the name of its element, perhaps with a namespace before it. -/
def label : Tag → String
  | keyName => "ds:KeyName"
  | encryptionMethod => "xenc:EncryptionMethod"
  | cipherData => "xenc:CipherData"
  | cipherValue => "xenc:CipherValue"
  | tag => tag.name

/-- All elements. -/
def all : List Tag :=
  [keyContainer, encryptionKey, keyName, macMethod, macKey, encryptionMethod, cipherData,
    cipherValue, keyPackage, deviceInfo, manufacturer, serialNo, key, issuer, algorithmParameters,
    responseFormat, data, secret, encryptedValue, valueMac, counter, plainValue, timeInterval,
    userId, friendlyName]

theorem mem_all (tag : Tag) : tag ∈ all := by
  cases tag <;> decide

theorem name_injective {tag tag' : Tag} (h : tag.name.toList = tag'.name.toList) : tag = tag' := by
  have hnodup : (all.map name).Nodup := by decide
  exact List.inj_on_of_nodup_map hnodup tag.mem_all tag'.mem_all (String.toList_inj.1 h)

theorem isWord_of_mem_name (tag : Tag) : ∀ c ∈ tag.name.toList, CharClass.isWord c = true := by
  have hall : ∀ tag ∈ all, tag.name.toList.all CharClass.isWord = true := by decide
  exact List.all_eq_true.1 (hall tag tag.mem_all)

theorem exists_cons_label (tag : Tag) : ∃ c s, c ≠ '/' ∧ tag.label.toList = c :: s := by
  have hall : ∀ tag ∈ all, tag.label.toList.head?.any (· ≠ '/') = true := by decide
  have htag := hall tag tag.mem_all
  cases hlabel : tag.label.toList with
  | nil => rw [hlabel] at htag; cases htag
  | cons c s => exact ⟨c, s, by simpa [hlabel] using htag, rfl⟩

/-- A namespace is no name of an element. -/
theorem label_cases (tag : Tag) : tag.label.toList = tag.name.toList ∨
    ∃ space, space ≠ [] ∧ (∀ c ∈ space, CharClass.isWord c = true) ∧
      (∀ tag : Tag, tag.name.toList ≠ space) ∧
      tag.label.toList = space ++ ':' :: tag.name.toList := by
  have hds : ∀ tag : Tag, tag.name.toList ≠ ['d', 's'] := by
    have : ∀ tag ∈ all, tag.name.toList ≠ ['d', 's'] := by decide
    exact fun tag => this tag tag.mem_all
  have hxenc : ∀ tag : Tag, tag.name.toList ≠ ['x', 'e', 'n', 'c'] := by
    have : ∀ tag ∈ all, tag.name.toList ≠ ['x', 'e', 'n', 'c'] := by decide
    exact fun tag => this tag tag.mem_all
  have hword : ['x', 'e', 'n', 'c'].all CharClass.isWord = true := rfl
  cases tag
  case keyName => exact .inr ⟨['d', 's'], by decide, List.all_eq_true.1 rfl, hds, rfl⟩
  case encryptionMethod => exact .inr ⟨_, by decide, List.all_eq_true.1 hword, hxenc, rfl⟩
  case cipherData => exact .inr ⟨_, by decide, List.all_eq_true.1 hword, hxenc, rfl⟩
  case cipherValue => exact .inr ⟨_, by decide, List.all_eq_true.1 hword, hxenc, rfl⟩
  all_goals exact .inl rfl

end Tag

/-! ## Words -/

/-- Whether no word goes on at the start of a text. -/
def EndsWord (s : List Char) : Prop :=
  ∀ c ∈ s.head?, CharClass.isWord c = false

/-- Whether neither a word nor a namespace goes on at the start of a text. -/
def EndsName (s : List Char) : Prop :=
  ∀ c ∈ s.head?, isNamespaceChar c = false ∧ c ≠ ':'

theorem EndsName.endsWord {s : List Char} (h : EndsName s) : EndsWord s := fun c hc =>
  (Bool.or_eq_false_iff.1 (h c hc).1).1

/-- Words that end are equal if one of them starts a text that the other one starts. -/
theorem eq_of_append_eq_append {word word' s s' : List Char}
    (hword : ∀ c ∈ word, CharClass.isWord c = true)
    (hword' : ∀ c ∈ word', CharClass.isWord c = true) (hs : EndsWord s) (hs' : EndsWord s')
    (h : word ++ s = word' ++ s') : word = word' := by
  rcases List.append_eq_append_iff.1 h with ⟨more, rfl, rfl⟩ | ⟨more, rfl, rfl⟩
  · cases more with
    | nil => rw [List.append_nil]
    | cons c more =>
      have hc := hword' c (List.mem_append_right _ List.mem_cons_self)
      cases (hs c rfl).symm.trans hc
  · cases more with
    | nil => rw [List.append_nil]
    | cons c more =>
      have hc := hword c (List.mem_append_right _ List.mem_cons_self)
      cases (hs' c rfl).symm.trans hc

theorem stripName?_word {name word s : List Char} (hname : ∀ c ∈ name, CharClass.isWord c = true)
    (hword : ∀ c ∈ word, CharClass.isWord c = true) (hs : EndsWord s) :
    stripName? name (word ++ s) = if name = word then some s else none := by
  split
  · next heq =>
    subst heq
    have : ¬s.head?.any CharClass.isWord = true := by
      rw [Option.any_eq_true]
      rintro ⟨c, hc, hword⟩
      cases (hs c hc).symm.trans hword
    rw [stripName?, Text.stripPrefix?_append, Option.bind_some, if_neg this]
  · next hne =>
    refine Option.eq_none_iff_forall_ne_some.2 fun rest h => hne ?_
    rw [stripName?, Option.bind_eq_some_iff] at h
    obtain ⟨rest, hrest, h⟩ := h
    split at h
    · cases h
    · next hend =>
      refine eq_of_append_eq_append hname hword (s := rest) (fun c hc => ?_) hs
        (Text.eq_append_of_stripPrefix? hrest).symm
      cases hc' : CharClass.isWord c with
      | false => rfl
      | true => exact absurd (Option.any_eq_true _ _ |>.2 ⟨c, hc, hc'⟩) hend

theorem stripPrefix?_word {name word s : List Char}
    (hname : ∀ c ∈ name, CharClass.isWord c = true)
    (hword : ∀ c ∈ word, CharClass.isWord c = true) {c : Char} (hc : CharClass.isWord c = false) :
    Text.stripPrefix? (name ++ ['>']) (word ++ c :: s) =
      if name = word ∧ c = '>' then some s else none := by
  have hend : EndsWord (c :: s) := fun d hd => by cases hd; exact hc
  split
  · next heq =>
    obtain ⟨rfl, rfl⟩ := heq
    have hassoc : name ++ '>' :: s = name ++ ['>'] ++ s := by rw [List.append_assoc]; rfl
    rw [hassoc, Text.stripPrefix?_append]
  · next hne =>
    refine Option.eq_none_iff_forall_ne_some.2 fun rest h => hne ?_
    have heq := Text.eq_append_of_stripPrefix? h
    rw [List.append_assoc, List.singleton_append] at heq
    have hgt : EndsWord ('>' :: rest) := fun d hd => by cases hd; rfl
    obtain rfl := eq_of_append_eq_append hname hword hgt hend heq.symm
    exact ⟨rfl, (List.cons.inj (List.append_cancel_left heq)).1⟩

/-! ## Namespaces -/

theorem isNamespaceChar_of_isWord {c : Char} (h : CharClass.isWord c = true) :
    isNamespaceChar c = true := by
  rw [isNamespaceChar, h, Bool.true_or]

theorem stripNamespace?_word {word s : List Char} (hword : ∀ c ∈ word, CharClass.isWord c = true)
    (hs : EndsName s) : stripNamespace? (word ++ s) = none := by
  have hall : ∀ c ∈ word, isNamespaceChar c = true :=
    fun c hc => isNamespaceChar_of_isWord (hword c hc)
  have hdrop : s.dropWhile isNamespaceChar = s := by
    cases s with
    | nil => rfl
    | cons c s => exact List.dropWhile_cons_of_neg (by rw [(hs c rfl).1]; exact Bool.false_ne_true)
  rw [stripNamespace?, List.dropWhile_append_of_pos hall, hdrop]
  split
  · exact absurd rfl (hs ':' rfl).2
  · rfl

theorem stripNamespace?_append {space : List Char} (hne : space ≠ [])
    (hspace : ∀ c ∈ space, CharClass.isWord c = true) (s : List Char) :
    stripNamespace? (space ++ ':' :: s) = some s := by
  have hall : ∀ c ∈ space, isNamespaceChar c = true :=
    fun c hc => isNamespaceChar_of_isWord (hspace c hc)
  have hcolon : ¬isNamespaceChar ':' = true := by decide
  rw [stripNamespace?, List.takeWhile_append_of_pos hall, List.dropWhile_append_of_pos hall,
    List.takeWhile_cons_of_neg hcolon, List.dropWhile_cons_of_neg hcolon, List.append_nil]
  cases space with
  | nil => exact absurd rfl hne
  | cons c space => rfl

/-! ## Names in tags -/

/-- The name of an element is found at the start of a tag if the tag is one of the element. -/
theorem afterName_label (tag tag' : Tag) {s : List Char} (hs : EndsName s) :
    afterName tag.name.toList (tag'.label.toList ++ s) = if tag = tag' then [s] else [] := by
  have hname : tag.name.toList = tag'.name.toList ↔ tag = tag' :=
    ⟨Tag.name_injective, fun h => h ▸ rfl⟩
  rcases tag'.label_cases with hlabel | ⟨space, hne, hspace, hfresh, hlabel⟩
  · rw [hlabel, afterName, stripNamespace?_word tag'.isWord_of_mem_name hs,
      stripName?_word tag.isWord_of_mem_name tag'.isWord_of_mem_name hs.endsWord]
    simp only [hname]
    split <;> rfl
  · have hcolon : EndsWord (':' :: (tag'.name.toList ++ s)) := fun c hc => by cases hc; rfl
    rw [hlabel, List.append_assoc, List.cons_append, afterName, stripNamespace?_append hne hspace,
      Option.bind_some, stripName?_word tag.isWord_of_mem_name tag'.isWord_of_mem_name hs.endsWord,
      stripName?_word tag.isWord_of_mem_name hspace hcolon, if_neg (hfresh tag)]
    simp only [hname]
    split <;> rfl

/-- A tag closes the element it is a tag of. -/
theorem stripClosing?_label (tag tag' : Tag) (s : List Char) :
    stripClosing? tag.name.toList ('<' :: '/' :: (tag'.label.toList ++ '>' :: s)) =
      if tag = tag' then some s else none := by
  have hname : tag.name.toList = tag'.name.toList ↔ tag = tag' :=
    ⟨Tag.name_injective, fun h => h ▸ rfl⟩
  have hstart : Text.stripPrefix? ['<', '/'] ('<' :: '/' :: (tag'.label.toList ++ '>' :: s)) =
      some (tag'.label.toList ++ '>' :: s) := Text.stripPrefix?_append ['<', '/'] _
  rw [stripClosing?, hstart, Option.bind_some]
  rcases tag'.label_cases with hlabel | ⟨space, hne, hspace, hfresh, hlabel⟩
  · have hend : EndsName ('>' :: s) := fun c hc => by cases hc; decide
    rw [hlabel, stripNamespace?_word tag'.isWord_of_mem_name hend,
      stripPrefix?_word tag.isWord_of_mem_name tag'.isWord_of_mem_name rfl]
    simp only [hname, and_true]
    rfl
  · have hspaced : Text.stripPrefix? (tag.name.toList ++ ['>'])
        (space ++ ':' :: (tag'.name.toList ++ '>' :: s)) = none := by
      rw [stripPrefix?_word tag.isWord_of_mem_name hspace rfl, if_neg fun h => hfresh tag h.1]
    rw [hlabel, List.append_assoc, List.cons_append, stripNamespace?_append hne hspace,
      Option.bind_some, stripPrefix?_word tag.isWord_of_mem_name tag'.isWord_of_mem_name rfl,
      hspaced]
    simp only [hname, and_true]
    split <;> rfl

end TokenInventory.KeyContainer
