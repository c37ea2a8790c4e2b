import TokenInventory.Bytes.Hex
import TokenInventory.Json.Basic

/-!
# Writing JSON

Two layouts of a value. The compact layout has no blanks at all. The indented layout puts each item
and each member on a line of its own, two spaces deeper than the bracket around it, and writes an
empty array or object as its two brackets.

In texts the quote, the backslash and the control characters below the space are escaped; everything
else stands for itself.
-/

namespace TokenInventory.Json

/-- A character inside a text. -/
def escapeChar (c : Char) : List Char :=
  match c with
  | '"' => ['\\', '"']
  | '\\' => ['\\', '\\']
  | '\x08' => ['\\', 'b']
  | '\x0c' => ['\\', 'f']
  | '\n' => ['\\', 'n']
  | '\r' => ['\\', 'r']
  | '\t' => ['\\', 't']
  | c =>
    if c.toNat < 0x20 then
      ['\\', 'u', '0', '0', Hex.digit (c.toNat / 16), Hex.digit (c.toNat % 16)]
    else [c]

/-- A text between quotes. -/
def writeText (s : String) : List Char :=
  '"' :: s.toList.flatMap escapeChar ++ ['"']

/-- The start of a line at a depth. -/
def newLine (depth : Nat) : List Char :=
  '\n' :: List.replicate (2 * depth) ' '

mutual

/-- A value without blanks. -/
def compact : Json → List Char
  | null => "null".toList
  | bool b => (if b then "true" else "false").toList
  | int n => Text.writeInt n
  | number written => written.toList
  | str s => writeText s
  | unpaired => writeText ""
  | arr [] => ['[', ']']
  | arr (item :: items) => '[' :: compact item ++ compactItems items
  | obj [] => ['\x7b', '\x7d']
  | obj ((key, value) :: members) =>
    '\x7b' :: writeText key ++ ':' :: compact value ++ compactMembers members

/-- Further items of an array, and its end. -/
def compactItems : List Json → List Char
  | [] => [']']
  | item :: items => ',' :: compact item ++ compactItems items

/-- Further members of an object, and its end. -/
def compactMembers : List (String × Json) → List Char
  | [] => ['\x7d']
  | (key, value) :: members =>
    ',' :: writeText key ++ ':' :: compact value ++ compactMembers members

end

mutual

/-- A value in lines, the first of which has been started at the given depth. -/
def indented (depth : Nat) : Json → List Char
  | null => "null".toList
  | bool b => (if b then "true" else "false").toList
  | int n => Text.writeInt n
  | number written => written.toList
  | str s => writeText s
  | unpaired => writeText ""
  | arr [] => ['[', ']']
  | arr (item :: items) =>
    '[' :: newLine (depth + 1) ++ indented (depth + 1) item ++ indentedItems depth items
  | obj [] => ['\x7b', '\x7d']
  | obj ((key, value) :: members) =>
    '\x7b' :: newLine (depth + 1) ++ writeText key ++ ':' :: ' ' :: indented (depth + 1) value ++
      indentedMembers depth members

/-- Further items of an array that started at the given depth, and its end. -/
def indentedItems (depth : Nat) : List Json → List Char
  | [] => newLine depth ++ [']']
  | item :: items =>
    ',' :: newLine (depth + 1) ++ indented (depth + 1) item ++ indentedItems depth items

/-- Further members of an object that started at the given depth, and its end. -/
def indentedMembers (depth : Nat) : List (String × Json) → List Char
  | [] => newLine depth ++ ['\x7d']
  | (key, value) :: members =>
    ',' :: newLine (depth + 1) ++ writeText key ++ ':' :: ' ' :: indented (depth + 1) value ++
      indentedMembers depth members

end

/-- The value on one line. -/
def toCompact (value : Json) : String :=
  String.ofList value.compact

/-- The value in indented lines. -/
def toIndented (value : Json) : String :=
  String.ofList (value.indented 0)

mutual

/-- The value with the members of every object in ascending order of their keys. -/
def sortKeys : Json → Json
  | arr items => arr (sortKeysItems items)
  | obj members => obj (SortedMap.ofList (sortKeysMembers members)).entries
  | value => value

/-- `sortKeys` for each item. -/
def sortKeysItems : List Json → List Json
  | [] => []
  | item :: items => sortKeys item :: sortKeysItems items

/-- `sortKeys` for each member. -/
def sortKeysMembers : List (String × Json) → List (String × Json)
  | [] => []
  | (key, value) :: members => (key, sortKeys value) :: sortKeysMembers members

end

end TokenInventory.Json
