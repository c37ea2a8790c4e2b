/-!
# Base 32

Five bits per character, in the alphabet `A` to `Z`, `2` to `7`, as seeds are shown by authenticator
programs. Five bytes make a group of eight characters; a shorter last group is filled with `=`.
Reading ignores letter case and the `=` at the end, and drops bits that fill no byte.
-/

namespace TokenInventory.Base32

/-- The character for five bits. -/
def symbol (n : Nat) : Char :=
  if n < 26 then Char.ofNat ('A'.toNat + n) else Char.ofNat ('2'.toNat + (n - 26))

/-- The five bits that a character of either case stands for. -/
def value? (c : Char) : Option Nat :=
  if 'A' ≤ c ∧ c ≤ 'Z' then some (c.toNat - 'A'.toNat)
  else if 'a' ≤ c ∧ c ≤ 'z' then some (c.toNat - 'a'.toNat)
  else if '2' ≤ c ∧ c ≤ '7' then some (c.toNat - '2'.toNat + 26)
  else none

/-- The characters of a group of five bytes, of which the first `count` count. -/
def group (count : Nat) (a b c d e : UInt8) : List Char :=
  let bits := (((a.toNat * 256 + b.toNat) * 256 + c.toNat) * 256 + d.toNat) * 256 + e.toNat
  let used := (count * 8 + 4) / 5
  (List.range 8).map fun i => if i < used then symbol (bits >>> (35 - 5 * i) % 32) else '='

/-- The bytes in groups of eight characters. -/
def encode : List UInt8 → List Char
  | [] => []
  | [a] => group 1 a 0 0 0 0
  | [a, b] => group 2 a b 0 0 0
  | [a, b, c] => group 3 a b c 0 0
  | [a, b, c, d] => group 4 a b c d 0
  | a :: b :: c :: d :: e :: rest => group 5 a b c d e ++ encode rest

/-- Bits that a reader has taken in. -/
structure Accumulator where
  bits : Nat := 0
  width : Nat := 0

namespace Accumulator

/-- The accumulator with five more bits. -/
def push (a : Accumulator) (v : Nat) : Accumulator :=
  ⟨a.bits * 32 + v, a.width + 5⟩

/-- The byte that its first bits make up, if there are enough. -/
def byte? (a : Accumulator) : Option UInt8 :=
  if 8 ≤ a.width then some (UInt8.ofNat (a.bits >>> (a.width - 8))) else none

/-- The accumulator without the bits of that byte. -/
def rest (a : Accumulator) : Accumulator :=
  if 8 ≤ a.width then ⟨a.bits % 1 <<< (a.width - 8), a.width - 8⟩ else a

end Accumulator

/-- Reads characters when the bits of an accumulator are left over from earlier ones. -/
def decodeFrom (a : Accumulator) : List Char → Option (List UInt8)
  | [] => some []
  | c :: s =>
    match value? c with
    | none => none
    | some v => (decodeFrom (a.push v).rest s).map ((a.push v).byte?.toList ++ ·)

/-- A text without the `=` it ends with. -/
def dropPadding (s : List Char) : List Char :=
  (s.reverse.dropWhile (· == '=')).reverse

/-- The bytes that a text stands for. -/
def decode (s : List Char) : Option (List UInt8) :=
  decodeFrom {} (dropPadding s)

end TokenInventory.Base32
