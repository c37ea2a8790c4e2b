import TokenInventory.Bytes.Hex
import TokenInventory.Text.Decimal

/-!
# Scalars of YAML

What a plain scalar stands for besides a text: nothing, a truth value, a whole number or a number
with a point or an exponent. Whole numbers are decimal, or hexadecimal, octal or binary with a mark
before the digits. A decimal number with a zero before other digits is no number.
-/

namespace TokenInventory.Yaml

/-- Whether a text stands for nothing. -/
def isNull (s : String) : Bool :=
  ["", "~", "null", "Null", "NULL"].contains s

/-- The truth value that a text stands for. -/
def flag? (s : String) : Option Bool :=
  if ["true", "True", "TRUE"].contains s then some true
  else if ["false", "False", "FALSE"].contains s then some false
  else none

/-- The number that digits of a base stand for, after `acc`. -/
def readBase (base acc : Nat) : List Char → Option Nat
  | [] => some acc
  | c :: s =>
    match Hex.value? c with
    | some d => if d < base then readBase base (acc * base + d) s else none
    | none => none

/-- The number that one or more digits of a base stand for. -/
def natOfBase? (base : Nat) (s : List Char) : Option Nat :=
  if s = [] then none else readBase base 0 s

/-- The base and the digits after its mark. -/
def splitBase : List Char → Nat × List Char
  | '0' :: 'x' :: s => (16, s)
  | '0' :: 'o' :: s => (8, s)
  | '0' :: 'b' :: s => (2, s)
  | s => (10, s)

/-- Whether a decimal number has a zero before other digits. -/
def hasLeadingZero (s : List Char) : Bool :=
  match s with
  | '0' :: c :: s => (c :: s).all Char.isDigit
  | _ => false

/-- The number without a sign that a text stands for. -/
def magnitude? (s : List Char) : Option Nat :=
  if hasLeadingZero s then none else natOfBase? (splitBase s).1 (splitBase s).2

/-- The whole number that a text stands for. -/
def int? : List Char → Option Int
  | '+' :: s => (magnitude? s).map Int.ofNat
  | '-' :: s => (magnitude? s).map fun n => -(n : Int)
  | s => (magnitude? s).map Int.ofNat

/-- Whether a text is read as a whole number of at most 128 bits. -/
def isInt (s : List Char) : Bool :=
  match int? s with
  | none => false
  | some n =>
    -0x80000000000000000000000000000000 ≤ n && n < 0x100000000000000000000000000000000

/-- The signed 64-bit number that a text stands for. -/
def int64? (s : String) : Option Int64 :=
  (int? s.toList).bind Text.int64?

/-- The names of the numbers that are not finite, with their signs. -/
def unboundedNames : List String :=
  [".inf", ".Inf", ".INF", "+.inf", "+.Inf", "+.INF", "-.inf", "-.Inf", "-.INF", ".nan", ".NaN",
    ".NAN"]

/-- The exponent that a text writes after its digits; zero if there is nothing left. -/
def exponent? : List Char → Option Int
  | [] => some 0
  | c :: s =>
    if c = 'e' ∨ c = 'E' then
      match s with
      | '-' :: s => (Text.readNat s).map fun n => -(n : Int)
      | s => (Text.readUnsigned s).map Int.ofNat
    else none

/-- The digits before and after a point, and what follows them. -/
def decimalDigits (s : List Char) : List Char × List Char × List Char :=
  let whole := s.takeWhile Char.isDigit
  match s.dropWhile Char.isDigit with
  | '.' :: s => (whole, s.takeWhile Char.isDigit, s.dropWhile Char.isDigit)
  | rest => (whole, [], rest)

/-- Whether `digits` times ten to the power `exponent` is nearest to a finite double-precision
number. -/
def isFinite (digits : Nat) (exponent : Int) : Bool :=
  let bound := 1 <<< 1024 - 1 <<< 970
  if digits = 0 then true
  else if 400 < exponent then false
  else if 0 ≤ exponent then digits * Nat.pow 10 exponent.toNat < bound
  else
    let shift := (-exponent).toNat
    if (Nat.toDigits 10 digits).length ≤ 300 + shift then true
    else digits < bound * Nat.pow 10 shift

/-- Whether a text without a sign is a finite number with a point or an exponent. -/
def isUnsignedFloat (s : List Char) : Bool :=
  let (whole, fraction, rest) := decimalDigits s
  match Text.readNat (whole ++ fraction), exponent? rest with
  | some digits, some exponent => isFinite digits (exponent - fraction.length)
  | _, _ => false

/-- Whether a text is read as a number with a point or an exponent. -/
def isFloat (s : List Char) : Bool :=
  unboundedNames.contains (String.ofList s) ||
    match s with
    | '+' :: s => isUnsignedFloat s
    | '-' :: s => isUnsignedFloat s
    | s => isUnsignedFloat s

/-- Whether a decimal number with or without a sign has a zero before other digits. -/
def isZeroPadded : List Char → Bool
  | '+' :: s => hasLeadingZero s
  | '-' :: s => hasLeadingZero s
  | s => hasLeadingZero s

/-- Whether a plain scalar of this text would or might be read as something else than a text. -/
def isAmbiguous (s : String) : Bool :=
  isNull s || (flag? s).isSome || isInt s.toList || isZeroPadded s.toList || isFloat s.toList

end TokenInventory.Yaml
