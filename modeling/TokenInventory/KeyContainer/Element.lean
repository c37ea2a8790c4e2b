import TokenInventory.Pattern.CharClass
import TokenInventory.Text.Basic

/-!
# Elements of a key container

Finding elements and attributes by their names in the text of a container. A tag may carry a
namespace before its name, which does not matter. An element reaches from the first tag that opens
it to the first tag after it that closes an element of the same name, so elements of one name are
not nested.
-/

namespace TokenInventory.KeyContainer

/-- Whether a character may be part of a namespace. -/
def isNamespaceChar (c : Char) : Bool :=
  CharClass.isWord c || c == '-'

/-- What follows a namespace and its colon at the start of a text. -/
def stripNamespace? (s : List Char) : Option (List Char) :=
  match s.takeWhile isNamespaceChar, s.dropWhile isNamespaceChar with
  | _ :: _, ':' :: rest => some rest
  | _, _ => none

/-- What follows a name, if the text starts with the name and no word goes on after it. -/
def stripName? (name s : List Char) : Option (List Char) :=
  (Text.stripPrefix? name s).bind fun rest =>
    if rest.head?.any CharClass.isWord then none else some rest

/-- The ways to read a name, with a namespace before it or without, at the start of a text: what
follows the name. -/
def afterName (name s : List Char) : List (List Char) :=
  ((stripNamespace? s).bind (stripName? name)).toList ++ (stripName? name s).toList

/-- What follows the first tag that opens an element, from the end of the element's name on. -/
def afterOpening? (name : List Char) : List Char → Option (List Char)
  | [] => none
  | '<' :: s =>
    match afterName name s with
    | rest :: _ => some rest
    | [] => afterOpening? name s
  | _ :: s => afterOpening? name s

/-- What follows a tag that closes an element, if the text starts with one. -/
def stripClosing? (name s : List Char) : Option (List Char) :=
  (Text.stripPrefix? ['<', '/'] s).bind fun s =>
    ((stripNamespace? s).bind (Text.stripPrefix? (name ++ ['>']))) <|>
      Text.stripPrefix? (name ++ ['>']) s

/-- The text up to the first tag that closes an element, and what follows the tag. -/
def splitAtClosing? (name : List Char) : List Char → Option (List Char × List Char)
  | [] => none
  | c :: s =>
    match stripClosing? name (c :: s) with
    | some rest => some ([], rest)
    | none => (splitAtClosing? name s).map fun (content, rest) => (c :: content, rest)

/-- The content of the first element with a name, and what follows the element. -/
def firstElement? (name s : List Char) : Option (List Char × List Char) := do
  let rest ← afterOpening? name s
  let (_, rest) ← Text.splitFirst? '>' rest
  splitAtClosing? name rest

theorem length_stripPrefix?_le {word s rest : List Char}
    (h : Text.stripPrefix? word s = some rest) : rest.length ≤ s.length := by
  induction word generalizing s with
  | nil => simp [Text.stripPrefix?] at h; simp [h]
  | cons a word ih =>
    cases s with
    | nil => simp [Text.stripPrefix?] at h
    | cons c s =>
      rw [Text.stripPrefix?] at h
      split at h
      · exact Nat.le_succ_of_le (ih h)
      · cases h

theorem length_stripNamespace?_le {s rest : List Char} (h : stripNamespace? s = some rest) :
    rest.length ≤ s.length := by
  rw [stripNamespace?] at h
  split at h
  · next hd =>
    have : (s.dropWhile isNamespaceChar).length ≤ s.length :=
      (List.dropWhile_sublist _).length_le
    rw [hd] at this
    cases h
    simp at this
    omega
  · cases h

theorem length_stripName?_le {name s rest : List Char} (h : stripName? name s = some rest) :
    rest.length ≤ s.length := by
  rw [stripName?, Option.bind_eq_some_iff] at h
  obtain ⟨r, hr, h⟩ := h
  split at h
  · cases h
  · exact Option.some.inj h ▸ length_stripPrefix?_le hr

theorem length_afterName_le {name s rest : List Char} (h : rest ∈ afterName name s) :
    rest.length ≤ s.length := by
  simp only [afterName, List.mem_append, Option.mem_toList, Option.bind_eq_some_iff] at h
  rcases h with ⟨r, hr, h⟩ | h
  · exact Nat.le_trans (length_stripName?_le h) (length_stripNamespace?_le hr)
  · exact length_stripName?_le h

theorem length_afterOpening?_lt {name s rest : List Char} (h : afterOpening? name s = some rest) :
    rest.length < s.length := by
  fun_induction afterOpening? name s with
  | case1 => cases h
  | case2 s r rs hr =>
    have : r.length ≤ s.length := length_afterName_le (show r ∈ afterName name s by simp [hr])
    simp at h ⊢
    subst h
    omega
  | case3 s _ ih => simpa using Nat.lt_succ_of_lt (ih h)
  | case4 c s _ ih => simpa using Nat.lt_succ_of_lt (ih h)

theorem length_splitFirst?_le {c : Char} {s before after : List Char}
    (h : Text.splitFirst? c s = some (before, after)) : after.length ≤ s.length := by
  induction s generalizing before with
  | nil => simp [Text.splitFirst?] at h
  | cons d s ih =>
    rw [Text.splitFirst?] at h
    split at h
    · cases h; simp
    · simp only [Option.map_eq_some_iff, Prod.mk.injEq, Prod.exists] at h
      obtain ⟨b, a, h, -, rfl⟩ := h
      exact Nat.le_succ_of_le (ih h)

theorem length_stripClosing?_le {name s rest : List Char} (h : stripClosing? name s = some rest) :
    rest.length ≤ s.length := by
  simp only [stripClosing?, Option.bind_eq_some_iff, Option.orElse_eq_orElse,
    Option.orElse_eq_or, Option.or_eq_some_iff] at h
  obtain ⟨r, hr, ⟨q, hq, h⟩ | ⟨-, h⟩⟩ := h
  · exact Nat.le_trans (length_stripPrefix?_le h)
      (Nat.le_trans (length_stripNamespace?_le hq) (length_stripPrefix?_le hr))
  · exact Nat.le_trans (length_stripPrefix?_le h) (length_stripPrefix?_le hr)

theorem length_splitAtClosing?_le {name s content rest : List Char}
    (h : splitAtClosing? name s = some (content, rest)) : rest.length ≤ s.length := by
  induction s generalizing content with
  | nil => simp [splitAtClosing?] at h
  | cons c s ih =>
    rw [splitAtClosing?] at h
    split at h
    · next hr => cases h; exact length_stripClosing?_le hr
    · simp only [Option.map_eq_some_iff, Prod.mk.injEq, Prod.exists] at h
      obtain ⟨b, a, h, -, rfl⟩ := h
      exact Nat.le_succ_of_le (ih h)

theorem length_firstElement?_lt {name s content rest : List Char}
    (h : firstElement? name s = some (content, rest)) : rest.length < s.length := by
  simp only [firstElement?, Option.bind_eq_bind, Option.bind_eq_some_iff, Prod.exists] at h
  obtain ⟨r, hr, _, q, hq, h⟩ := h
  have h₁ := length_afterOpening?_lt hr
  have h₂ := length_splitFirst?_le hq
  have h₃ := length_splitAtClosing?_le h
  omega

/-- The contents of all elements with a name, one after the other. -/
def elements (name s : List Char) : List (List Char) :=
  match _h : firstElement? name s with
  | none => []
  | some (content, rest) => content :: elements name rest
termination_by s.length
decreasing_by exact length_firstElement?_lt _h

/-- The content of the first element with a name, without blanks at its ends. -/
def element? (name : String) (s : List Char) : Option (List Char) :=
  (firstElement? name.toList s).map fun (content, _) => Text.trim content

/-- The value of an attribute within a tag. `inWord` tells whether a word goes on
at the start. -/
def attributeInTag? (label : List Char) (inWord : Bool) : List Char → Option (List Char)
  | [] => none
  | c :: s =>
    let value :=
      if inWord then none
      else
        (Text.stripPrefix? (label ++ ['=', '"']) (c :: s)).bind fun rest =>
          (Text.splitFirst? '"' rest).map Prod.fst
    match value with
    | some value => some value
    | none => if c = '>' then none else attributeInTag? label (CharClass.isWord c) s

/-- The value of an attribute in the first tag that opens an element with a name and has the
attribute. -/
def attribute? (name label : List Char) : List Char → Option (List Char)
  | [] => none
  | c :: s =>
    let here :=
      if c = '<' then (afterName name s).findSome? (attributeInTag? label true) else none
    match here with
    | some value => some value
    | none => attribute? name label s

end TokenInventory.KeyContainer
