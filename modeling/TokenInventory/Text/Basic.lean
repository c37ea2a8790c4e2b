import TokenInventory.Text.Blank

/-!
# Texts

Elementary operations on texts as lists of characters: letter case, prefixes, splitting at a
separator and finding the first occurrence of a word. Letter case is that of the twenty-six
unaccented letters; all other characters stand for themselves.
-/

namespace TokenInventory.Text

/-- A text with its unaccented capitals made small. -/
def lower (s : List Char) : List Char :=
  s.map Char.toLower

/-- `lower` on strings. -/
def lowered (s : String) : String :=
  String.ofList (lower s.toList)

/-- Whether two texts differ at most in the case of unaccented letters. -/
def sameLetters (s t : String) : Bool :=
  lower s.toList == lower t.toList

/-- The number of bytes of a text in UTF-8. -/
def byteLength : List Char → Nat
  | [] => 0
  | c :: s => c.utf8Size + byteLength s

/-- What follows `word` at the start of a text. -/
def stripPrefix? : List Char → List Char → Option (List Char)
  | [], s => some s
  | _ :: _, [] => none
  | a :: word, c :: s => if a = c then stripPrefix? word s else none

theorem stripPrefix?_append (word s : List Char) : stripPrefix? word (word ++ s) = some s := by
  induction word with
  | nil => cases s <;> rfl
  | cons a word ih => rw [List.cons_append, stripPrefix?, if_pos rfl, ih]

theorem eq_append_of_stripPrefix? {word s rest : List Char}
    (h : stripPrefix? word s = some rest) : s = word ++ rest := by
  induction word generalizing s with
  | nil => cases s <;> cases h <;> rfl
  | cons a word ih =>
    cases s with
    | nil => cases h
    | cons c s =>
      rw [stripPrefix?] at h
      split at h
      · next heq => rw [heq, ih h, List.cons_append]
      · cases h

/-- Whether a text starts with `word`. -/
def startsWith (word s : List Char) : Bool :=
  (stripPrefix? word s).isSome

/-- The text before the first `separator` and the text after it. -/
def splitFirst? (separator : Char) : List Char → Option (List Char × List Char)
  | [] => none
  | c :: s =>
    if c = separator then some ([], s)
    else (splitFirst? separator s).map fun (before, after) => (c :: before, after)

theorem splitFirst?_append {separator : Char} {before : List Char} (h : separator ∉ before)
    (after : List Char) :
    splitFirst? separator (before ++ separator :: after) = some (before, after) := by
  induction before with
  | nil => simp [splitFirst?]
  | cons c before ih =>
    obtain ⟨hc, hbefore⟩ := not_or.1 (fun hmem => h (List.mem_cons.2 hmem))
    rw [List.cons_append, splitFirst?, if_neg (Ne.symm hc), ih hbefore]
    rfl

theorem splitFirst?_eq_none {separator : Char} {s : List Char} (h : separator ∉ s) :
    splitFirst? separator s = none := by
  induction s with
  | nil => rfl
  | cons c s ih =>
    rw [List.mem_cons, not_or] at h
    rw [splitFirst?, if_neg (Ne.symm h.1), ih h.2]
    rfl

theorem append_separator_inj {separator : Char} {before before' after after' : List Char}
    (h : separator ∉ before) (h' : separator ∉ before')
    (heq : before ++ separator :: after = before' ++ separator :: after') :
    before = before' ∧ after = after' := by
  have hsplit := splitFirst?_append h after
  rw [heq, splitFirst?_append h'] at hsplit
  cases hsplit
  exact ⟨rfl, rfl⟩

/-- The pieces between separators; a text without separator is one piece. -/
def splitAll (separator : Char) : List Char → List (List Char)
  | [] => [[]]
  | c :: s =>
    if c = separator then [] :: splitAll separator s
    else
      match splitAll separator s with
      | [] => [[c]]
      | piece :: pieces => (c :: piece) :: pieces

/-- The texts with `separator` between each two of them. -/
def joinWith (separator : String) : List String → String
  | [] => ""
  | [s] => s
  | s :: t :: rest => s ++ separator ++ joinWith separator (t :: rest)

/-- The line made of `s`. -/
def line (s : String) : String :=
  s ++ "\n"

end TokenInventory.Text
