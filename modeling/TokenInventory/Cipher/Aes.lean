/-!
# The block cipher AES

The Advanced Encryption Standard with 128-bit keys, in the direction of encryption, which is all
that counter mode needs. A block is sixteen bytes, column by column: byte `4 * c + r` is in row `r`
of column `c`. The substitution box is computed from its definition, the inverse in the field of
256 elements followed by an affine map.
-/

namespace TokenInventory.Aes

/-- Sixteen bytes: a block of text or a key. -/
abbrev Block : Type :=
  Vector UInt8 16

/-- Multiplication by two in the field of 256 elements. -/
def double (x : UInt8) : UInt8 :=
  if x &&& 0x80 = 0 then x <<< 1 else (x <<< 1) ^^^ 0x1b

/-- Multiplication in the field of 256 elements. -/
def times (x y : UInt8) : UInt8 :=
  ((List.range 8).foldl
    (fun (sum, power) i =>
      (if (y >>> UInt8.ofNat i) &&& 1 = 1 then sum ^^^ power else sum, double power))
    ((0, x) : UInt8 × UInt8)).1

/-- The inverse of an element; zero for zero. -/
def inverse (x : UInt8) : UInt8 :=
  (List.range 253).foldl (fun y _ => times y x) x

/-- A byte turned left by `n` bits. -/
def rotateLeft (x n : UInt8) : UInt8 :=
  (x <<< n) ||| (x >>> (8 - n))

/-- The byte that the substitution box has for `x`. -/
def substituteByte (x : UInt8) : UInt8 :=
  let y := inverse x
  y ^^^ rotateLeft y 1 ^^^ rotateLeft y 2 ^^^ rotateLeft y 3 ^^^ rotateLeft y 4 ^^^ 0x63

/-- The substitution box. -/
def box : Vector UInt8 256 :=
  Vector.ofFn fun i => substituteByte (UInt8.ofNat i.val)

/-- The entry of the substitution box for a byte. -/
def substitute (x : UInt8) : UInt8 :=
  box.get ⟨x.toNat, x.toNat_lt⟩

/-- The byte in row `r` of column `c`, both counted cyclically. -/
def cell (s : Block) (r c : Nat) : UInt8 :=
  s[4 * (c % 4) + r % 4]

/-- The block whose bytes are given by row and column. -/
def ofCells (byte : Nat → Nat → UInt8) : Block :=
  Vector.ofFn fun i => byte (i.val % 4) (i.val / 4)

/-- Substitution of all bytes, then row `r` turned by `r` columns. -/
def substituteAndShift (s : Block) : Block :=
  ofCells fun r c => substitute (cell s r (c + r))

/-- Each column multiplied by the fixed matrix. -/
def mixColumns (s : Block) : Block :=
  ofCells fun r c =>
    double (cell s r c) ^^^ (double (cell s (r + 1) c) ^^^ cell s (r + 1) c) ^^^
      cell s (r + 2) c ^^^ cell s (r + 3) c

/-- The bitwise sum of two blocks. -/
def add (s t : Block) : Block :=
  Vector.zipWith (· ^^^ ·) s t

/-- The first column of the next round key. -/
def nextKeyColumn (constant : UInt8) (k : Block) (r : Nat) : UInt8 :=
  cell k r 0 ^^^ substitute (cell k (r + 1) 3) ^^^ (if r % 4 = 0 then constant else 0)

/-- The next round key. -/
def nextKey (constant : UInt8) (k : Block) : Block :=
  ofCells fun r c =>
    (List.range c).foldl (fun x i => x ^^^ cell k r (i + 1)) (nextKeyColumn constant k r)

/-- The inner rounds, each with the next round key, and the last one. -/
def rounds : Nat → UInt8 → Block → Block → Block
  | 0, constant, key, s => add (substituteAndShift s) (nextKey constant key)
  | count + 1, constant, key, s =>
    let key := nextKey constant key
    rounds count (double constant) key (add (mixColumns (substituteAndShift s)) key)

/-- The encryption of one block. -/
def encrypt (key block : Block) : Block :=
  rounds 9 1 key (add block key)

end TokenInventory.Aes
