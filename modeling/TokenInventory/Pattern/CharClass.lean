import TokenInventory.Text.Blank
import TokenInventory.Unicode.BinaryProperty
import TokenInventory.Unicode.CaseFolding
import TokenInventory.Unicode.Script

/-!
# Classes of characters

A class is written as ranges and properties, put together by the operations on sets. `contains`
tells whether a character is in a class. Letter case is given up for a whole class: then a class
contains a character if it contains one that differs from it in case alone.
-/

namespace TokenInventory

/-- A class of characters. -/
inductive CharClass
  | nothing
  | range (first last : Char)
  | property (holds : Char → Bool)
  | negated (a : CharClass)
  | union (a b : CharClass)
  | intersection (a b : CharClass)
  | difference (a b : CharClass)
  | symmetricDifference (a b : CharClass)
  /-- The class without regard to case. -/
  | anyCase (a : CharClass)
  /-- The class without regard to the case of the twenty-six unaccented letters. -/
  | anyAsciiCase (a : CharClass)

namespace CharClass

/-- The characters that differ from the given one at most in the case of an unaccented letter. -/
def asciiVariants (c : Char) : List Char :=
  [c.toLower, c.toUpper]

/-- Whether a character is in a class. -/
def contains : CharClass → Char → Bool
  | nothing, _ => false
  | range first last, c => first ≤ c && c ≤ last
  | property holds, c => holds c
  | negated a, c => !a.contains c
  | union a b, c => a.contains c || b.contains c
  | intersection a b, c => a.contains c && b.contains c
  | difference a b, c => a.contains c && !b.contains c
  | symmetricDifference a b, c => a.contains c != b.contains c
  | anyCase a, c => (Unicode.caseVariants c).any a.contains
  | anyAsciiCase a, c => (asciiVariants c).any a.contains

/-- The class of one character. -/
def char (c : Char) : CharClass :=
  range c c

/-- The class of the characters in any of the ranges. -/
def ranges (spans : List (Char × Char)) : CharClass :=
  spans.foldl (fun a span => union a (range span.1 span.2)) nothing

/-- The class, or its complement. -/
def negatedIf (isNegated : Bool) (a : CharClass) : CharClass :=
  if isNegated then negated a else a

/-- Whether a class of plain ranges and their complements contains no character beyond the 7-bit
ones. -/
def isAscii (a : CharClass) : Bool :=
  !a.contains '\x80'

/-- The decimal digits. -/
def digit : CharClass :=
  property (Unicode.hasCategory ["Nd"])

/-- The blanks. -/
def blank : CharClass :=
  property Text.isBlank

/-- Whether a character is part of a word: a letter, a mark, a digit, a connector or a joiner. -/
def isWord (c : Char) : Bool :=
  if c.toNat < 0x80 then c.isAlphanum || c == '_'
  else
    Unicode.BinaryProperty.alphabetic.holds c ||
      Unicode.hasCategory ["Mn", "Mc", "Me", "Nd", "Pc"] c ||
      Unicode.BinaryProperty.joinControl.holds c

/-- The characters of words. -/
def word : CharClass :=
  property isWord

/-- Whether a 7-bit character is part of a word. -/
def isAsciiWord (c : Char) : Bool :=
  c.isAlphanum || c == '_'

/-- The classes of 7-bit characters that have a name. -/
def asciiClass? (name : String) : Option CharClass :=
  match name with
  | "alnum" => some (ranges [('0', '9'), ('A', 'Z'), ('a', 'z')])
  | "alpha" => some (ranges [('A', 'Z'), ('a', 'z')])
  | "ascii" => some (ranges [('\x00', '\x7F')])
  | "blank" => some (ranges [('\t', '\t'), (' ', ' ')])
  | "cntrl" => some (ranges [('\x00', '\x1F'), ('\x7F', '\x7F')])
  | "digit" => some (ranges [('0', '9')])
  | "graph" => some (ranges [('!', '~')])
  | "lower" => some (ranges [('a', 'z')])
  | "print" => some (ranges [(' ', '~')])
  | "punct" => some (ranges [('!', '/'), (':', '@'), ('[', '\x60'), ('\x7b', '~')])
  | "space" => some (ranges [('\t', '\r'), (' ', ' ')])
  | "upper" => some (ranges [('A', 'Z')])
  | "word" => some (ranges [('0', '9'), ('A', 'Z'), ('_', '_'), ('a', 'z')])
  | "xdigit" => some (ranges [('0', '9'), ('A', 'F'), ('a', 'f')])
  | _ => none

/-- The class of a loose name of a general category. -/
def categoryNamed? (name : String) : Option CharClass :=
  match name with
  | "any" => some (negated nothing)
  | "assigned" => some (negated (property (Unicode.hasCategory ["Cn"])))
  | "ascii" => some (range '\x00' '\x7F')
  | name => (Unicode.categoriesNamed? name).map fun codes => property (Unicode.hasCategory codes)

/-- The class of a loose name of a script. -/
def scriptNamed? (name : String) : Option CharClass :=
  (Unicode.scriptNamed? name).map fun code => property fun c => Unicode.script c == code

/-- The class of the characters with a named property, category or script. -/
def named? (name : List Char) : Option CharClass :=
  let name := String.ofList (Unicode.looseName name)
  ((Unicode.BinaryProperty.named? name).map fun p => property p.holds) <|>
    categoryNamed? name <|> scriptNamed? name

/-- The class of the characters for which a named property has a value. -/
def withValue? (name value : List Char) : Option CharClass :=
  let value := String.ofList (Unicode.looseName value)
  match String.ofList (Unicode.looseName name) with
  | "gc" | "generalcategory" | "category" => categoryNamed? value
  | "sc" | "script" => scriptNamed? value
  | "scx" | "scriptextensions" =>
    (Unicode.scriptNamed? value).map fun code => property (Unicode.isUsedWith code)
  | _ => none

/-- About how many states the class takes in a compiled pattern. -/
def weight : CharClass → Nat
  | nothing => 1
  | range first last => if last.toNat < 0x80 then 1 else 1 + (last.toNat - first.toNat) / 0x1000
  | property _ => 600
  | negated a => 12 + a.weight
  | union a b | intersection a b | difference a b | symmetricDifference a b => a.weight + b.weight
  | anyCase a | anyAsciiCase a => 1 + a.weight

end CharClass

end TokenInventory
