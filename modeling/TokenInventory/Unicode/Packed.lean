import TokenInventory.Bytes.Hex
import TokenInventory.Text.Basic

/-!
# Packed tables

Tables over the Unicode code space, packed into texts of words with blanks and line ends between
them. All numbers are hexadecimal.

A table of spans has a word for each span of code points: the gap since the span before and, after a
dash, how many further code points the span has. A table of runs divides the whole code space: each
word tells how far a run starts after the one before, and then the label of its code points.
-/

namespace TokenInventory.Unicode

/-- The number that hexadecimal digits stand for. -/
def hexNumber (digits : List Char) : Nat :=
  digits.foldl (fun n c => 16 * n + (Hex.value? c).getD 0) 0

/-- The words of a packed table. -/
def words (packed : String) : List (List Char) :=
  let blank (c : Char) := if c = '\n' then ' ' else c
  (Text.splitAll ' ' (packed.toList.map blank)).filter (· ≠ [])

/-- Spans of code points, each with its first and its last one. -/
abbrev Spans : Type :=
  List (Nat × Nat)

namespace Spans

/-- The spans of words, the first of which counts from `start`. -/
def ofWords (start : Nat) : List (List Char) → Spans
  | [] => []
  | word :: words =>
    match Text.splitFirst? '-' word with
    | none =>
      let first := start + hexNumber word
      (first, first) :: ofWords (first + 1) words
    | some (gap, further) =>
      let first := start + hexNumber gap
      let last := first + hexNumber further
      (first, last) :: ofWords (last + 1) words

/-- The spans of a packed table. -/
def unpack (packed : String) : Spans :=
  if packed = "" then [] else ofWords 0 (words packed)

/-- Whether a character lies in one of the spans, which ascend. -/
def contains (c : Char) : Spans → Bool
  | [] => false
  | (first, last) :: spans =>
    if c.toNat < first then false else c.toNat ≤ last || contains c spans

end Spans

/-- Runs of code points, each with its first one and its label. -/
abbrev Runs : Type :=
  List (Nat × String)

namespace Runs

/-- Whether a character is a digit of a packed number. -/
def isPackedDigit (c : Char) : Bool :=
  c.isDigit || ('a' ≤ c && c ≤ 'f')

/-- The runs of words, the first of which counts from `start`. -/
def ofWords (start : Nat) : List (List Char) → Runs
  | [] => []
  | word :: words =>
    let first := start + hexNumber (word.takeWhile isPackedDigit)
    (first, String.ofList (word.dropWhile isPackedDigit)) :: ofWords first words

/-- The runs of a packed table. -/
def unpack (packed : String) : Runs :=
  ofWords 0 (words packed)

/-- The label of a character, which is `label` before the first run. -/
def labelAt (c : Char) (label : String) : Runs → String
  | [] => label
  | (first, next) :: runs => if c.toNat < first then label else labelAt c next runs

end Runs

/-- A name as it is looked up: small letters and digits alone, without a leading `is`. -/
def looseName (name : List Char) : List Char :=
  let (hasIs, rest) :=
    match name with
    | a :: b :: rest =>
      if Text.lower [a, b] = ['i', 's'] then (true, rest) else (false, name)
    | _ => (false, name)
  let loose := Text.lower (rest.filter fun c => c.toNat < 0x80 && c ≠ ' ' && c ≠ '_' && c ≠ '-')
  if hasIs && loose = ['c'] then ['i', 's', 'c'] else loose

end TokenInventory.Unicode
