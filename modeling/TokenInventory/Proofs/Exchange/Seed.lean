import TokenInventory.Exchange.Seed
import TokenInventory.Proofs.Bytes.Base32
import TokenInventory.Proofs.Bytes.Hex

/-!
# Exported seeds

Bytes are needed to write a seed in base 32, but not to write it in digits (`encode_cases`). The
seed of a token is read back from its exported form, in digits with small letters, whichever form
that is (`decode_of_encode`). A seed without bytes is handed out as it is stored, and that is the
only exported text that is not read back (`decode_of_exported`).
-/

namespace TokenInventory

/-- Whether the seed of a token stands for bytes. -/
def Token.HasBytes (token : Token) : Prop :=
  Hex.IsPairs token.seed.toList

namespace Seed

variable {token : Token} {seed : List UInt8}

theorem bytes_cases (token : Token) :
    (token.HasBytes ∧ ∃ seed, bytes token = .ok seed) ∨
      (¬token.HasBytes ∧ bytes token = .error (.invalidSeed token.serial)) := by
  rw [Token.HasBytes, ← Hex.exists_decode_iff, bytes]
  cases Hex.decode token.seed.toList with
  | ok seed => exact .inl ⟨⟨seed, rfl⟩, seed, rfl⟩
  | error e => exact .inr ⟨nofun, rfl⟩

theorem encode_cases (token : Token) (inBase32 : Bool) :
    ((inBase32 = true → token.HasBytes) ∧ ∃ text, encode token inBase32 = .ok text) ∨
      (inBase32 = true ∧ ¬token.HasBytes ∧
        encode token inBase32 = .error (.invalidSeed token.serial)) := by
  cases inBase32 with
  | false => exact .inl ⟨nofun, _, rfl⟩
  | true =>
    rcases bytes_cases token with ⟨hbytes, seed, hok⟩ | ⟨hbytes, herror⟩
    · exact .inl ⟨fun _ => hbytes, _, by rw [encode, if_pos rfl, hok]; rfl⟩
    · exact .inr ⟨rfl, hbytes, by rw [encode, if_pos rfl, herror]; rfl⟩

theorem decode_of_bytes (h : bytes token = .ok seed) :
    Hex.decode token.seed.toList = .ok seed := by
  unfold bytes at h
  split at h
  · next hdecode =>
    rw [hdecode, Except.ok.inj h]
  · cases h

theorem lowered_of_bytes (h : bytes token = .ok seed) :
    String.ofList (Hex.encode seed) = Text.lowered token.seed := by
  rw [Hex.encode_of_decode (decode_of_bytes h), Text.lowered]

theorem encode_of_bytes (h : bytes token = .ok seed) (inBase32 : Bool) :
    encode token inBase32 =
      .ok (if inBase32 then String.ofList (Base32.encode seed) else token.seed) := by
  cases inBase32 with
  | false => rfl
  | true => rw [encode, if_pos rfl, h]; rfl

theorem exists_bytes_of_encode {text : String} (h : encode token true = .ok text) :
    ∃ seed, bytes token = .ok seed := by
  rcases bytes_cases token with ⟨-, hok⟩ | ⟨-, herror⟩
  · exact hok
  · rw [encode, if_pos rfl, herror] at h
    cases h

/-- A seed is read back from its exported form. -/
theorem decode_of_encode {inBase32 : Bool} {text : String} (h : bytes token = .ok seed)
    (hencode : encode token inBase32 = .ok text) (serial : String) :
    decode serial text inBase32 = .ok (Text.lowered token.seed) := by
  rw [encode_of_bytes h] at hencode
  cases hencode
  cases inBase32 with
  | false => simp only [decode, Bool.false_eq_true, if_false, decode_of_bytes h]
  | true =>
    simp only [decode, if_true, String.toList_ofList, Base32.decode_encode, lowered_of_bytes h]

/-- In digits a seed is exported as it is stored. An exported seed is read back if it was written in
base 32 or stands for bytes. A seed without bytes that is exported in digits is refused. -/
theorem decode_of_exported (token : Token) (inBase32 : Bool) :
    encode token false = .ok token.seed ∧
      ∀ text, encode token inBase32 = .ok text →
        (inBase32 = true ∨ token.HasBytes →
          decode token.serial text inBase32 = .ok (Text.lowered token.seed)) ∧
        (inBase32 = false ∧ ¬token.HasBytes →
          decode token.serial text inBase32 = .error (.invalidSeed token.serial)) := by
  refine ⟨rfl, fun text h => ?_⟩
  rcases bytes_cases token with ⟨hbytes, seed, hseed⟩ | ⟨hbytes, herror⟩
  · exact ⟨fun _ => decode_of_encode hseed h token.serial, fun hnot => absurd hbytes hnot.2⟩
  · cases inBase32 with
    | true =>
      rw [encode, if_pos rfl, herror] at h
      cases h
    | false =>
      refine ⟨fun hor => (hor.elim nofun hbytes).elim, fun _ => ?_⟩
      cases h
      rw [Token.HasBytes, ← Hex.exists_decode_iff] at hbytes
      rw [decode, if_neg Bool.false_ne_true]
      split
      · next seed hread => exact absurd ⟨seed, hread⟩ hbytes
      · rfl

/-- A seed with capital digits, in base 32 and in digits. -/
theorem decode_of_exported_capitals :
    let token : Token := { serial := "T1", tokenType := "hotp", seed := "666F6f" }
    token.HasBytes ∧
      encode token true = .ok "MZXW6===" ∧ decode "T1" "MZXW6===" true = .ok "666f6f" ∧
      encode token false = .ok "666F6f" ∧ decode "T1" "666F6f" false = .ok "666f6f" := by
  intro token
  have hbytes : token.HasBytes := ⟨by decide, List.all_eq_true.1 (by decide)⟩
  have hlowered : Text.lowered token.seed = "666f6f" := by decide
  have hread : (bytes token).toOption = some [102, 111, 111] := by decide
  obtain ⟨-, seed, hseed⟩ := (bytes_cases token).resolve_right fun h => h.1 hbytes
  obtain rfl : seed = [102, 111, 111] := Option.some.inj (by rw [← hread, hseed]; rfl)
  have hform : String.ofList (Base32.encode [102, 111, 111]) = "MZXW6===" := by decide
  have hbase32 : encode token true = .ok "MZXW6===" := by rw [encode_of_bytes hseed, ← hform]; rfl
  obtain ⟨hdigits, -⟩ := decode_of_exported token true
  rw [← hlowered]
  exact ⟨hbytes, hbase32, ((decode_of_exported token true).2 _ hbase32).1 (.inl rfl), hdigits,
    ((decode_of_exported token false).2 _ hdigits).1 (.inr hbytes)⟩

/-- A text that is no digits is exported as it is stored, and is not read back. -/
theorem decode_ne_of_exported_unchecked :
    let token : Token := { serial := "T1", tokenType := "hotp", seed := "xyz" }
    encode token false = .ok "xyz" ∧
      decode token.serial "xyz" false ≠ .ok (Text.lowered token.seed) := by
  intro token
  refine ⟨rfl, ?_⟩
  have hrefused : decode token.serial "xyz" false = .error (.invalidSeed "T1") := rfl
  rw [hrefused]
  nofun

end Seed

end TokenInventory
