import TokenInventory.Cipher.Sealing
import TokenInventory.Proofs.Bytes.Hex
import TokenInventory.Proofs.Text.Blank

/-!
# Opening what was sealed

Adding the key stream twice gives a message back (`Gcm.applyStream_applyStream`), and the tag of a
ciphertext has sixteen bytes, so a sealed value is opened under the same key
(`openSealed_sealWith`). A key is read back from its digits (`Key.ofHex_toHex`).
-/

namespace TokenInventory

namespace Gcm

open Aes (Block)

theorem length_bytesOfNat (count n : Nat) : (bytesOfNat count n).length = count := by
  rw [bytesOfNat, List.length_map, List.length_range]

theorem length_counterBlock (key : Block) (nonce : List UInt8) (i : Nat) :
    (counterBlock key nonce i).length = 16 := by
  rw [counterBlock, Vector.length_toList]

theorem length_keyStream (key : Block) (nonce : List UInt8) (count : Nat) :
    (keyStream key nonce count).length = 16 * count := by
  induction count with
  | zero => rfl
  | succ count ih =>
    rw [keyStream, List.range_succ, List.flatMap_append, List.length_append, List.flatMap_singleton,
      length_counterBlock]
    rw [keyStream] at ih
    omega

theorem zipWith_xor_zipWith_xor {message stream : List UInt8}
    (h : message.length ≤ stream.length) :
    List.zipWith (· ^^^ ·) (List.zipWith (· ^^^ ·) message stream) stream = message := by
  induction message generalizing stream with
  | nil => rfl
  | cons b message ih =>
    cases stream with
    | nil => cases h
    | cons k stream =>
      rw [List.zipWith_cons_cons, List.zipWith_cons_cons, ih (Nat.le_of_succ_le_succ h),
        UInt8.xor_assoc, UInt8.xor_self, UInt8.xor_zero]

theorem length_applyStream (key : Block) (nonce message : List UInt8) :
    (applyStream key nonce message).length = message.length := by
  rw [applyStream, List.length_zipWith, length_keyStream]
  omega

/-- Adding the key stream twice gives the message back. -/
theorem applyStream_applyStream (key : Block) (nonce message : List UInt8) :
    applyStream key nonce (applyStream key nonce message) = message := by
  rw [applyStream, length_applyStream, applyStream, zipWith_xor_zipWith_xor]
  rw [length_keyStream]
  omega

theorem length_tag (key : Block) (nonce ciphertext : List UInt8) :
    (tag key nonce ciphertext).length = 16 := by
  rw [tag, List.length_zipWith, length_bytesOfNat, length_counterBlock]
  rfl

/-- An encrypted message is decrypted under the same key and nonce. -/
theorem decrypt_encrypt (key : Block) (nonce message : List UInt8) :
    decrypt key nonce (encrypt key nonce message) = some message := by
  have hlength : (encrypt key nonce message).length - 16 =
      (applyStream key nonce message).length := by
    rw [encrypt, List.length_append, length_tag, Nat.add_sub_cancel]
  rw [decrypt, hlength, encrypt, List.take_left, List.drop_left, if_pos rfl,
    applyStream_applyStream]

end Gcm

/-- A sealed value is opened under the same key. -/
theorem openSealed_sealWith (key : Key) {nonce : List UInt8} (h : nonce.length = nonceLength)
    (value : List UInt8) : openSealed key (sealWith key nonce value) = some value := by
  have hlength : ¬(sealWith key nonce value).length < nonceLength + tagLength := by
    rw [sealWith, List.length_append, Gcm.encrypt, List.length_append, Gcm.length_tag, tagLength]
    omega
  rw [openSealed, if_neg hlength, sealWith, ← h, List.take_left, List.drop_left,
    Gcm.decrypt_encrypt]

/-- A key is read back from its digits. -/
theorem Key.ofHex_toHex (key : Key) : Key.ofHex key.toHex.toList = .ok key := by
  have htrim : Text.trim (Hex.encode key.toList) = Hex.encode key.toList :=
    Text.trim_of_forall_not_blank (Hex.isBlank_of_mem_encode key.toList)
  rw [Key.ofHex, Key.toHex, String.toList_ofList, htrim, Hex.decode_encode]
  simp only [Vector.length_toList, dite_true]
  rfl

theorem Entropy.length_draw (entropy : Entropy) (count : Nat) :
    (entropy.draw count).1.length = count := by
  rw [Entropy.draw, List.length_map, List.length_range]

/-- Sealing a value is sealing it with some nonce. -/
theorem exists_sealValue (key : Key) (value : List UInt8) (entropy : Entropy) :
    ∃ nonce, nonce.length = nonceLength ∧
      (sealValue key value entropy).1 = sealWith key nonce value :=
  ⟨_, entropy.length_draw nonceLength, rfl⟩

end TokenInventory
