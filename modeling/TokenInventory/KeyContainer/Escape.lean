import TokenInventory.Text.Basic

/-!
# Escapes of a key container

Five characters have a meaning of their own in a container. A text that may hold them is written
with an entity in place of each, and reading puts the characters back.
-/

namespace TokenInventory.KeyContainer

/-- A character as it is written. -/
def escapeChar : Char → List Char
  | '&' => "&amp;".toList
  | '<' => "&lt;".toList
  | '>' => "&gt;".toList
  | '"' => "&quot;".toList
  | '\'' => "&apos;".toList
  | c => [c]

/-- A text as it is written. -/
def escape (s : List Char) : List Char :=
  s.flatMap escapeChar

/-- The text that was written. An ampersand that begins no entity stands for itself. -/
def unescape : List Char → List Char
  | '&' :: 'a' :: 'm' :: 'p' :: ';' :: s => '&' :: unescape s
  | '&' :: 'l' :: 't' :: ';' :: s => '<' :: unescape s
  | '&' :: 'g' :: 't' :: ';' :: s => '>' :: unescape s
  | '&' :: 'q' :: 'u' :: 'o' :: 't' :: ';' :: s => '"' :: unescape s
  | '&' :: 'a' :: 'p' :: 'o' :: 's' :: ';' :: s => '\'' :: unescape s
  | c :: s => c :: unescape s
  | [] => []

/-- `escape` on strings. -/
def escaped (s : String) : String :=
  String.ofList (escape s.toList)

end TokenInventory.KeyContainer
