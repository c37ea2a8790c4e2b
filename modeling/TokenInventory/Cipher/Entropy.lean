import TokenInventory.Cipher.Sha256

/-!
# Random bytes

A source of random bytes is an endless sequence of bytes of which a first part has been used up.
Whoever draws from it gets the next bytes and a source that has moved on, so a program with a given
source always makes the same choices.
-/

namespace TokenInventory

/-- A sequence of random bytes and how many of them are used up. -/
structure Entropy where
  byte : Nat → UInt8
  used : Nat

namespace Entropy

/-- A number as eight bytes, the highest first. -/
def counterBytes (n : Nat) : List UInt8 :=
  (List.range 8).map fun i => (n >>> (8 * (7 - i))).toUInt8

/-- The source that a seed is stretched to: the digests of the seed with the numbers
from zero on. -/
def ofSeed (seed : List UInt8) : Entropy where
  byte i := (Sha256.digest (seed ++ counterBytes (i / 32)))[i % 32]?.getD 0
  used := 0

/-- The next `count` bytes. -/
def draw (e : Entropy) (count : Nat) : List UInt8 × Entropy :=
  ((List.range count).map fun i => e.byte (e.used + i), { e with used := e.used + count })

/-- The next sixteen bytes, as a key. -/
def drawKey (e : Entropy) : Vector UInt8 16 × Entropy :=
  (Vector.ofFn fun i => e.byte (e.used + i.val), { e with used := e.used + 16 })

end Entropy

end TokenInventory
