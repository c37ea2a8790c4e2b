import TokenInventory.Text.Basic

/-!
# Decimal integers

Reading and writing of whole numbers. An integer is written with at most one sign and at least one
digit `0` to `9` and nothing else; leading zeros are allowed. Values of the inventory are signed
64-bit numbers, and a text whose value does not fit is not a number.
-/

namespace TokenInventory.Text

/-- The number that `acc` followed by the given digits denotes. -/
def readDigits (acc : Nat) : List Char → Option Nat
  | [] => some acc
  | c :: s => if c.isDigit then readDigits (acc * 10 + (c.toNat - '0'.toNat)) s else none

/-- Reads a number that is written as one or more digits. -/
def readNat : List Char → Option Nat
  | [] => none
  | c :: s => readDigits 0 (c :: s)

/-- Reads an optional `+` and digits. -/
def readUnsigned : List Char → Option Nat
  | '+' :: s => readNat s
  | s => readNat s

/-- Reads an optional sign and digits. -/
def readInt : List Char → Option Int
  | '-' :: s => (readNat s).map fun n => -(n : Int)
  | s => (readUnsigned s).map Int.ofNat

/-- The 64-bit value of an integer in range. -/
def int64? (i : Int) : Option Int64 :=
  if -0x8000000000000000 ≤ i ∧ i < 0x8000000000000000 then some (Int64.ofInt i) else none

/-- Reads a signed 64-bit integer: a sign at most, then digits, in range. -/
def readInt64 (s : List Char) : Option Int64 :=
  (readInt s).bind int64?

/-- A whole number in decimal notation. -/
def writeInt : Int → List Char
  | .ofNat n => Nat.toDigits 10 n
  | .negSucc n => '-' :: Nat.toDigits 10 (n + 1)

/-- A number in decimal notation. -/
def ofNat (n : Nat) : String :=
  String.ofList (Nat.toDigits 10 n)

/-- A 64-bit integer in decimal notation. -/
def ofInt64 (x : Int64) : String :=
  String.ofList (writeInt x.toInt)

end TokenInventory.Text
