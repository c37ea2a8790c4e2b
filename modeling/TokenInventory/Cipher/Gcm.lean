import TokenInventory.Cipher.Aes

/-!
# Authenticated encryption

AES-128 in Galois counter mode without associated data. A message is added bitwise to a key stream
made from the key and a twelve-byte nonce, and followed by a sixteen-byte tag. Opening checks the
tag first and then adds the same key stream again.
-/

namespace TokenInventory.Gcm

open Aes (Block)

/-- The bytes of a number, `count` of them, the highest first. -/
def bytesOfNat (count n : Nat) : List UInt8 :=
  (List.range count).map fun i => (n >>> (8 * (count - 1 - i))).toUInt8

/-- The number whose bytes are given, the highest first. -/
def natOfBytes (bytes : List UInt8) : Nat :=
  bytes.foldl (fun n b => n * 256 + b.toNat) 0

/-- The block made of the first sixteen bytes, with zeros for those that are missing. -/
def blockOf (bytes : List UInt8) : Block :=
  Vector.ofFn fun i => bytes.getD i.val 0

/-- The encrypted counter block number `i` of a nonce. -/
def counterBlock (key : Block) (nonce : List UInt8) (i : Nat) : List UInt8 :=
  (Aes.encrypt key (blockOf (nonce ++ bytesOfNat 4 i))).toList

/-- The first `count` blocks of the key stream, which starts at counter two. -/
def keyStream (key : Block) (nonce : List UInt8) (count : Nat) : List UInt8 :=
  (List.range count).flatMap fun i => counterBlock key nonce (i + 2)

/-- A message added bitwise to the key stream. Doing this twice gives the message back. -/
def applyStream (key : Block) (nonce message : List UInt8) : List UInt8 :=
  List.zipWith (· ^^^ ·) message (keyStream key nonce (message.length / 16 + 1))

/-- Multiplication in the field of 2¹²⁸ elements, with the highest bit as the constant term. -/
def times (x y : Nat) : Nat :=
  ((List.range 128).foldl
    (fun (sum, power) i =>
      (if x.testBit (127 - i) then sum ^^^ power else sum,
       if power % 2 = 1 then (power / 2) ^^^ (0xe1 <<< 120) else power / 2))
    ((0, y) : Nat × Nat)).1

/-- The hash of `count` blocks of bytes, continued from `sum`. -/
def hashBlocks (key : Nat) : Nat → Nat → List UInt8 → Nat
  | 0, sum, _ => sum
  | count + 1, sum, bytes =>
    let block := natOfBytes ((bytes.take 16) ++ List.replicate (16 - (bytes.take 16).length) 0)
    hashBlocks key count (times (sum ^^^ block) key) (bytes.drop 16)

/-- The tag of a ciphertext. -/
def tag (key : Block) (nonce ciphertext : List UInt8) : List UInt8 :=
  let hashKey := natOfBytes (Aes.encrypt key (blockOf [])).toList
  let sum := hashBlocks hashKey ((ciphertext.length + 15) / 16) 0 ciphertext
  let sum := times (sum ^^^ (ciphertext.length * 8)) hashKey
  List.zipWith (· ^^^ ·) (bytesOfNat 16 sum) (counterBlock key nonce 1)

/-- The ciphertext of a message, followed by its tag. -/
def encrypt (key : Block) (nonce message : List UInt8) : List UInt8 :=
  let ciphertext := applyStream key nonce message
  ciphertext ++ tag key nonce ciphertext

/-- The message of a ciphertext followed by its tag; `none` if the tag is wrong. -/
def decrypt (key : Block) (nonce sealed : List UInt8) : Option (List UInt8) :=
  let ciphertext := sealed.take (sealed.length - 16)
  if tag key nonce ciphertext = sealed.drop (sealed.length - 16) then
    some (applyStream key nonce ciphertext)
  else none

end TokenInventory.Gcm
