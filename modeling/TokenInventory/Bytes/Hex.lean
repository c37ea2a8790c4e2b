import TokenInventory.Text.Decimal

/-!
# Hexadecimal bytes

Two digits per byte, the high half first. Writing uses small letters, reading accepts both cases.
`decode` names the first character that is no digit, counted in bytes.
-/

namespace TokenInventory.Hex

/-- Why a text is no sequence of hexadecimal bytes. -/
inductive Error
  /-- The text has an odd number of bytes. -/
  | oddLength
  /-- The byte at this position is no hexadecimal digit. -/
  | invalidByte (byte : Nat) (position : Nat)
  deriving DecidableEq, Repr

/-- The digit for a number below sixteen. -/
def digit (n : Nat) : Char :=
  if n < 10 then Char.ofNat ('0'.toNat + n) else Char.ofNat ('a'.toNat + (n - 10))

/-- The number that a digit stands for. -/
def value? (c : Char) : Option Nat :=
  if '0' ≤ c ∧ c ≤ '9' then some (c.toNat - '0'.toNat)
  else if 'a' ≤ c ∧ c ≤ 'f' then some (c.toNat - 'a'.toNat + 10)
  else if 'A' ≤ c ∧ c ≤ 'F' then some (c.toNat - 'A'.toNat + 10)
  else none

/-- The bytes as pairs of digits. -/
def encode : List UInt8 → List Char
  | [] => []
  | b :: bytes => digit (b.toNat / 16) :: digit (b.toNat % 16) :: encode bytes

/-- The first byte of a character's UTF-8 form. -/
def leadByte (c : Char) : Nat :=
  let n := c.toNat
  if n < 0x80 then n
  else if n < 0x800 then 0xC0 + n / 0x40
  else if n < 0x10000 then 0xE0 + n / 0x1000
  else 0xF0 + n / 0x40000

/-- The number that the digit at a position stands for. -/
def digitAt (position : Nat) (c : Char) : Except Error Nat :=
  match value? c with
  | some n => .ok n
  | none => .error (.invalidByte (leadByte c) position)

/-- Reads pairs of digits, the first of them at the given position. -/
def decodePairs (position : Nat) : List Char → Except Error (List UInt8)
  | [] => .ok []
  | [c] => do
    let _ ← digitAt position c
    .error .oddLength
  | a :: b :: rest => do
    let high ← digitAt position a
    let low ← digitAt (position + 1) b
    let bytes ← decodePairs (position + 2) rest
    .ok (UInt8.ofNat (16 * high + low) :: bytes)

/-- The bytes that a text of digits stands for. -/
def decode (s : List Char) : Except Error (List UInt8) :=
  if Text.byteLength s % 2 = 0 then decodePairs 0 s else .error .oddLength

/-- A byte between single quotes, with an escape for what cannot be shown. -/
def showByte (byte : Nat) : String :=
  match Char.ofNat byte with
  | '\'' => "'\\''"
  | '\\' => "'\\\\'"
  | '\t' => "'\\t'"
  | '\n' => "'\\n'"
  | '\r' => "'\\r'"
  | c =>
    if byte = 0 then "'\\0'"
    else if byte < 0x20 ∨ byte = 0x7F then
      "'\\u\x7b" ++ String.ofList (Nat.toDigits 16 byte) ++ "\x7d'"
    else "'" ++ c.toString ++ "'"

/-- The wording of an error. -/
def Error.message : Error → String
  | .oddLength => "Odd number of digits"
  | .invalidByte byte position =>
    "Invalid character " ++ showByte byte ++ " at position " ++ Text.ofNat position

end TokenInventory.Hex
