import Mathlib.Data.List.InsertIdx
import TokenInventory.Proofs.KeyContainer.Forgery
import TokenInventory.Proofs.Run.Reimport

/-!
# Loading a container with a forged signature

A container in which the signature of one package was replaced is refused as a whole with nothing
imported, or read without that package, or read as if nothing had happened, as the policy says
(`Writer.read_of_isForged`).
-/

namespace TokenInventory

open KeyContainer

/-- A container is refused before anything is noted if nothing was left out until then. -/
theorem loadTokens_of_importOf_error {text : String} {key : Option String} {policy : MacPolicy}
    {results : List PackageResult} {e : ExchangeError}
    (hresults : resultsOf text.toList key policy = .ok results)
    (hleftOut : leftOut (settledResults policy results) = [])
    (himport : importOf policy results = .error e) (path : String) (p : ImportProgress) :
    loadTokens ⟨path, .ok text⟩ key policy p = (.error (.content e), p) := by
  unfold loadTokens ImportFile.text
  dsimp only
  rw [hresults]
  dsimp only
  rw [hleftOut, himport]
  rfl

namespace KeyContainer

/-- Replacing the signature of one package of a container is noticed and does not concern the other
packages. If signatures matter, the container is refused with the serial of that package and nothing
is imported, or the others are read as before and in their order; else it is read as it was. -/
theorem Writer.read_of_isForged (writer : Writer) {tokens : List Token} {texts : List String}
    (hwritten : List.Forall₂ writer.Writes tokens texts)
    (hportable : ∀ token ∈ tokens, token.IsPortable) {i : Nat} {token : Token}
    (htoken : tokens[i]? = some token) {text forged : String} (htext : texts[i]? = some text)
    (hforged : IsForged text forged) (entropy : Entropy) :
    let key := some writer.key.toHex
    let container := writer.container entropy texts
    let tampered := writer.container entropy (texts.set i forged)
    ∃ described : List PackagedToken,
      described.map PackagedToken.toToken = tokens.map Token.reimported ∧
      (∀ policy, read container.toList key policy = .ok ⟨described, []⟩) ∧
      read tampered.toList key .ignore = .ok ⟨described, []⟩ ∧
      read tampered.toList key .leaveOut = .ok ⟨described.eraseIdx i, [token.serial]⟩ ∧
      read tampered.toList key .refuse = .error (.macMismatch token.serial) ∧
      ∀ path p, loadTokens ⟨path, .ok tampered⟩ key .refuse p =
        (.error (.content (.macMismatch token.serial)), p) := by
  obtain ⟨earlier, later, p, rfl, rfl, rfl, rfl, rfl, hauthentic⟩ :=
    exists_packages_of_getElem? hwritten htoken htext
  obtain ⟨mac, hmac, hne, rfl⟩ := isForged_iff.1 hforged
  obtain ⟨id, sealed, hmacKey, hcontainer⟩ := writer.exists_container entropy
  rw [List.forall_mem_map] at hportable
  intro key container tampered
  have htampered : tampered.toList =
      render (containerMarks id sealed (earlier ++ p.withMac mac hmac :: later)) := by
    rw [← hcontainer]
    simp [tampered]
  have herase : ((earlier ++ p :: later).map Packaged.described).eraseIdx earlier.length =
      (earlier ++ later).map Packaged.described := by
    rw [List.eraseIdx_map, List.eraseIdx_append_of_length_le le_rfl, Nat.sub_self,
      List.eraseIdx_cons_zero]
  have hrefused := resultsOf_withMac_of_ne_ignore hportable hauthentic hmacKey id hmac hne
    MacPolicy.refuse_ne_ignore
  rw [← htampered] at hrefused
  refine ⟨(earlier ++ p :: later).map Packaged.described, ?_⟩
  rw [htampered, herase]
  refine ⟨?_, fun policy => ?_,
    read_withMac_ignore hportable hauthentic hmacKey id hmac,
    read_withMac_leaveOut hportable hauthentic hmacKey id hmac hne,
    read_withMac_refuse hportable hauthentic hmacKey id hmac hne, ?_⟩
  · rw [List.map_map, List.map_map]
    exact List.map_congr_left fun q hq => Packaged.toToken_described (hauthentic q hq).toIsSealed
  · rw [read, hcontainer,
      resultsOf_render_of_isPortable (by simp) hportable hauthentic hmacKey]
    exact importOf_resultsFor policy (earlier ++ p :: later)
  · exact loadTokens_of_importOf_error hrefused
      (leftOut_settledResults_resultsWithout earlier later p.token.serial)
      (importOf_refuse_resultsWithout earlier later p.token.serial)

/-- The first of two packages with a signature that is none. -/
theorem Writer.read_of_isForged_two_tokens :
    let first : Token :=
      { serial := "OATH<1>", tokenType := "hotp", description := "desk & drawer", counter := 17
        seed := "3132" }
    let second : Token := { serial := "TOTP1", tokenType := "totp", seed := "abcdef" }
    let entropy : Entropy := ⟨fun _ => 0, 0⟩
    let writer := (Writer.random entropy).1
    ∃ texts text forged, List.Forall₂ writer.Writes [first, second] texts ∧
      texts[0]? = some text ∧ IsForged text forged ∧
      let key := some writer.key.toHex
      let tampered := writer.container entropy (texts.set 0 forged)
      read tampered.toList key .refuse = .error (.macMismatch "OATH<1>") ∧
      ∃ described, described.map PackagedToken.toToken = [second.reimported] ∧
        read tampered.toList key .leaveOut = .ok ⟨described, ["OATH<1>"]⟩ := by
  intro first second entropy writer
  have htype : PasswordType.ofToken? first = some .counterBased := by decide +kernel
  have htype' : PasswordType.ofToken? second = some .timeBased := by decide +kernel
  have hseed : Seed.bytes first = .ok [0x31, 0x32] := by decide +kernel
  have hseed' : Seed.bytes second = .ok [0xab, 0xcd, 0xef] := by decide +kernel
  obtain ⟨text, rest, hpackage⟩ := writer.exists_package htype hseed none entropy
  obtain ⟨text', rest', hpackage'⟩ := writer.exists_package htype' hseed' none entropy
  have hwritten : List.Forall₂ writer.Writes [first, second] [text, text'] :=
    .cons ⟨none, entropy, _, rest, hpackage⟩
      (.cons ⟨none, entropy, _, rest', hpackage'⟩ .nil)
  have hthirty : ∀ c ∈ "30".toList, isSpecial c = false := by simp [isSpecial]
  have hportable : ∀ token ∈ [first, second], token.IsPortable := by
    simp only [List.forall_mem_cons, List.not_mem_nil, false_implies, implies_true, and_true]
    exact ⟨⟨by decide, by decide, by decide, by decide, by decide⟩,
      ⟨by decide, by decide, by decide, fun _ => by decide, fun _ => hthirty⟩⟩
  obtain ⟨p, -, -, hauthentic, rfl, -⟩ := exists_packaged hpackage
  have hne : Text.trim ['!'] ≠ Text.trim p.mac := by
    rw [hauthentic.isSigned]
    intro heq
    have hmem : '!' ∈ Base64.encode (Sha256.hmac writer.macKey.toList p.sealed) :=
      heq ▸ (by decide : '!' ∈ Text.trim ['!'])
    exact absurd rfl (Base64.forall_mem_encode (p := (· ≠ '!')) (by decide) (by decide) _ _ hmem)
  have hforged : IsForged p.texts.text (p.withMac ['!'] (by decide)).texts.text :=
    isForged_iff.2 ⟨_, by decide, hne, rfl⟩
  obtain ⟨described, hdescribed, -, -, hleaveOut, hrefuse, -⟩ :=
    writer.read_of_isForged (i := 0) hwritten hportable rfl rfl hforged entropy
  refine ⟨_, _, _, hwritten, rfl, hforged, hrefuse, _, ?_, hleaveOut⟩
  rw [← List.eraseIdx_map, hdescribed]
  rfl

end KeyContainer

end TokenInventory
