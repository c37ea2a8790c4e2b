import TokenInventory.Bytes.Hex
import TokenInventory.Json.Basic

/-!
# Reading JSON

A reader for JSON texts. Between values and marks stand spaces, tabs and line breaks; a text holds
no control character below the space; a number has no leading zero. `Json.ofText?` reads a whole
text.

Each call of the reader within another is paid for with one unit of fuel and uses up at least one
character, so a text's length is enough fuel for it.
-/

namespace TokenInventory.Json

/-- A blank that may stand between two marks. -/
def isSpace (c : Char) : Bool :=
  c = ' ' || c = '\n' || c = '\t' || c = '\r'

/-- A text without the blanks it starts with. -/
def skipSpace (s : List Char) : List Char :=
  s.dropWhile isSpace

/-- A piece of a text as it is written. -/
inductive Piece
  | char (c : Char)
  /-- A 16-bit unit, written with four hexadecimal digits. -/
  | unit (n : Nat)

/-- The character that an escape letter stands for. -/
def escaped? : Char → Option Char
  | '"' => some '"'
  | '\\' => some '\\'
  | '/' => some '/'
  | 'b' => some '\x08'
  | 'f' => some '\x0c'
  | 'n' => some '\n'
  | 'r' => some '\r'
  | 't' => some '\t'
  | _ => none

/-- The number that four hexadecimal digits stand for. -/
def unit? (a b c d : Char) : Option Nat := do
  let a ← Hex.value? a
  let b ← Hex.value? b
  let c ← Hex.value? c
  let d ← Hex.value? d
  return ((a * 16 + b) * 16 + c) * 16 + d

/-- The pieces of a text up to the quote that ends it, and what follows the quote. -/
def readPieces : List Char → Option (List Piece × List Char)
  | [] => none
  | '"' :: s => some ([], s)
  | '\\' :: 'u' :: a :: b :: c :: d :: s => do
    let n ← unit? a b c d
    let (pieces, rest) ← readPieces s
    return (.unit n :: pieces, rest)
  | ['\\'] => none
  | '\\' :: c :: s => do
    let c ← escaped? c
    let (pieces, rest) ← readPieces s
    return (.char c :: pieces, rest)
  | c :: s =>
    if c.toNat < 0x20 then none
    else do
      let (pieces, rest) ← readPieces s
      return (.char c :: pieces, rest)

/-- The characters that pieces stand for. Units stand for a character alone or
in surrogate pairs. -/
def joinPieces : List Piece → Option (List Char)
  | [] => some []
  | .char c :: pieces => (joinPieces pieces).map (c :: ·)
  | .unit high :: .unit low :: pieces =>
    if 0xD800 ≤ high ∧ high < 0xDC00 then
      if 0xDC00 ≤ low ∧ low < 0xE000 then
        let c := Char.ofNat (0x10000 + (high - 0xD800) * 0x400 + (low - 0xDC00))
        (joinPieces pieces).map (c :: ·)
      else none
    else if 0xDC00 ≤ high ∧ high < 0xE000 then none
    else (joinPieces (.unit low :: pieces)).map (Char.ofNat high :: ·)
  | .unit n :: pieces =>
    if 0xD800 ≤ n ∧ n < 0xE000 then none else (joinPieces pieces).map (Char.ofNat n :: ·)

/-- Reads a text whose opening quote has been read; a text of unpaired halves has no characters. -/
def readText (s : List Char) : Option (Option String × List Char) :=
  (readPieces s).map fun (pieces, rest) => ((joinPieces pieces).map String.ofList, rest)

/-- Takes one or more digits off a text. -/
def readRun (s : List Char) : Option (List Char × List Char) :=
  match s.takeWhile Char.isDigit with
  | [] => none
  | digits => some (digits, s.dropWhile Char.isDigit)

/-- Takes a fraction off a text, if there is one. -/
def readFraction : List Char → Option (List Char × List Char)
  | '.' :: s => (readRun s).map fun (digits, rest) => ('.' :: digits, rest)
  | s => some ([], s)

/-- Takes an exponent off a text, if there is one. -/
def readExponent : List Char → Option (List Char × List Char)
  | c :: s =>
    if c = 'e' ∨ c = 'E' then
      match s with
      | '+' :: s => (readRun s).map fun (digits, rest) => (c :: '+' :: digits, rest)
      | '-' :: s => (readRun s).map fun (digits, rest) => (c :: '-' :: digits, rest)
      | s => (readRun s).map fun (digits, rest) => (c :: digits, rest)
    else some ([], c :: s)
  | [] => some ([], [])

/-- The value of a number written with the given digits and nothing but a sign before them. -/
def wholeNumber (negative : Bool) (digits : List Char) : Json :=
  let n := (Text.readDigits 0 digits).getD 0
  let value : Int := if negative then -(n : Int) else n
  if FitsWord value ∧ (negative → n ≠ 0) then int value
  else number (String.ofList (if negative then '-' :: digits else digits))

/-- Reads a number without its sign. -/
def readUnsigned (negative : Bool) (s : List Char) : Option (Json × List Char) := do
  let (digits, s) ← readRun s
  if digits.head? = some '0' ∧ digits ≠ ['0'] then none
  else
    let (fraction, s) ← readFraction s
    let (exponent, s) ← readExponent s
    let sign := if negative then ['-'] else []
    if fraction = [] ∧ exponent = [] then return (wholeNumber negative digits, s)
    else return (number (String.ofList (sign ++ digits ++ fraction ++ exponent)), s)

/-- Reads a number. -/
def readNumber : List Char → Option (Json × List Char)
  | '-' :: s => readUnsigned true s
  | s => readUnsigned false s

mutual

/-- Reads a value and the blanks before it. -/
def readValue : Nat → List Char → Option (Json × List Char)
  | 0, _ => none
  | fuel + 1, s =>
    match skipSpace s with
    | 'n' :: 'u' :: 'l' :: 'l' :: s => some (null, s)
    | 't' :: 'r' :: 'u' :: 'e' :: s => some (bool true, s)
    | 'f' :: 'a' :: 'l' :: 's' :: 'e' :: s => some (bool false, s)
    | '"' :: s => (readText s).map fun (text, rest) => ((text.map str).getD unpaired, rest)
    | '[' :: s =>
      match skipSpace s with
      | ']' :: s => some (arr [], s)
      | s => (readItems fuel s).map fun (items, rest) => (arr items, rest)
    | '\x7b' :: s =>
      match skipSpace s with
      | '\x7d' :: s => some (obj [], s)
      | s => (readMembers fuel s).map fun (members, rest) => (obj members, rest)
    | s => readNumber s

/-- Reads the values of an array up to the bracket that ends it. -/
def readItems : Nat → List Char → Option (List Json × List Char)
  | 0, _ => none
  | fuel + 1, s => do
    let (item, s) ← readValue fuel s
    match skipSpace s with
    | ',' :: s =>
      let (items, s) ← readItems fuel s
      return (item :: items, s)
    | ']' :: s => return ([item], s)
    | _ => none

/-- Reads the members of an object up to the brace that ends it. -/
def readMembers : Nat → List Char → Option (List (String × Json) × List Char)
  | 0, _ => none
  | fuel + 1, s =>
    match skipSpace s with
    | '"' :: s => do
      let (key, s) ← readText s
      let key ← key
      match skipSpace s with
      | ':' :: s =>
        let (value, s) ← readValue fuel s
        match skipSpace s with
        | ',' :: s =>
          let (members, s) ← readMembers fuel s
          return ((key, value) :: members, s)
        | '\x7d' :: s => return ([(key, value)], s)
        | _ => none
      | _ => none
    | _ => none

end

/-- Reads a text that holds one value and nothing else. -/
def ofText? (s : List Char) : Option Json := do
  let (value, rest) ← readValue (2 * s.length + 2) s
  if skipSpace rest = [] then return value else none

/-- Blanks before a value do not matter. -/
theorem readValue_congr {s t : List Char} (h : skipSpace s = skipSpace t) (fuel : Nat) :
    readValue fuel s = readValue fuel t := by
  cases fuel with
  | zero => rw [readValue, readValue]
  | succ fuel => rw [readValue, readValue, h]

theorem readItems_congr {s t : List Char} (h : skipSpace s = skipSpace t) (fuel : Nat) :
    readItems fuel s = readItems fuel t := by
  cases fuel with
  | zero => rw [readItems, readItems]
  | succ fuel => rw [readItems, readItems, readValue_congr h]

theorem readMembers_congr {s t : List Char} (h : skipSpace s = skipSpace t) (fuel : Nat) :
    readMembers fuel s = readMembers fuel t := by
  cases fuel with
  | zero => rw [readMembers, readMembers]
  | succ fuel => rw [readMembers, readMembers, h]

end TokenInventory.Json
