import TokenInventory.Proofs.KeyContainer.Policy
import TokenInventory.Proofs.KeyContainer.Replacement
import TokenInventory.Proofs.KeyContainer.Written

/-!
# Forged signatures

A package whose signature is replaced by anything else fails the check of its signature
(`failsCheck_render`), since no other text is read as the bytes of the signature. The other packages
of the container are read as before (`resultsOf_withMac`), and so is the forged one if signatures do
not matter (`resultsOf_withMac_ignore`).
-/

namespace TokenInventory.KeyContainer

/-! ## The forged package -/

variable {key macKey : Key} {policy : MacPolicy} {p : Packaged} {mac : List Char}

/-- A package whose signature is not right fails the check. -/
theorem failsCheck_render (hserial : ¬EndsIn "Algorithm".toList p.token.serial.toList)
    (hsigned : ¬p.IsSigned macKey) (key : Option Key) :
    FailsCheck ⟨key, some macKey.toList⟩ (render (packageContent p)) := by
  have hnames : NamesType (render (packageContent p)) := by
    rcases typeOf_cases "" (render (packageContent p)) with ⟨-, -, hnames⟩ | ⟨_, herror, -⟩
    · exact hnames
    · cases (typeOf_render hserial "").symm.trans herror
  obtain ⟨encrypted, hencrypted, hcipher⟩ := sealed_render p
  have hholds : HoldsSealed (render (packageContent p)) (render (secretMarks p)) p.sealed :=
    ⟨encrypted, element?_secret, hencrypted, hcipher⟩
  refine ⟨⟨hnames, _, _, hholds⟩, ?_⟩
  rw [hholds.isSigned_iff]
  rintro ⟨opened, read, hopened, hread, rfl⟩
  cases hopened
  exact hsigned (valueMac_render_eq_some_iff.1 hread)

theorem Packaged.IsSealed.withMac (hsealed : p.IsSealed key) (h : '<' ∉ mac) :
    (p.withMac mac h).IsSealed key :=
  ⟨hsealed.ofToken?_eq, hsealed.bytes_eq, hsealed.openSealed_eq⟩

theorem Packaged.IsSigned.not_withMac (hsigned : p.IsSigned macKey) (h : '<' ∉ mac)
    (hne : Text.trim mac ≠ Text.trim p.mac) : ¬(p.withMac mac h).IsSigned macKey := fun hforged =>
  hne (hforged.trans hsigned.symm)

/-! ## The container -/

/-- What reading a container gives, package by package, if the check of one package fails. -/
def resultsWithout (earlier : List Packaged) (serial : String) (later : List Packaged) :
    List PackageResult :=
  resultsFor earlier ++ (serial, .error (.macMismatch serial)) :: resultsFor later

section Import

variable (earlier later : List Packaged) (serial : String)

theorem importOf_refuse_resultsWithout :
    importOf .refuse (resultsWithout earlier serial later) = .error (.macMismatch serial) := by
  have hfound : (resultsWithout earlier serial later).findSome? mismatch? = some serial := by
    rw [resultsWithout, List.findSome?_append,
      List.findSome?_eq_none_iff.2 mismatch?_of_mem_resultsFor]
    rfl
  unfold importOf
  rw [hfound]

/-- Nothing is left out before the package that makes the container be refused. -/
theorem leftOut_settledResults_resultsWithout :
    leftOut (settledResults .refuse (resultsWithout earlier serial later)) = [] := by
  have htake : (resultsWithout earlier serial later).takeWhile (fun r => (mismatch? r).isNone) =
      resultsFor earlier := by
    have hall : ∀ r ∈ resultsFor earlier, (mismatch? r).isNone = true := fun r hr => by
      rw [mismatch?_of_mem_resultsFor r hr]
      rfl
    rw [resultsWithout, List.takeWhile_append_of_pos hall,
      List.takeWhile_cons_of_neg Bool.false_ne_true, List.append_nil]
  rw [settledResults, if_pos rfl, htake, leftOut_resultsFor]

/-- Only the package that fails is left out. -/
theorem importOf_leaveOut_resultsWithout :
    importOf .leaveOut (resultsWithout earlier serial later) =
      .ok ⟨(earlier ++ later).map Packaged.described, [serial]⟩ := by
  have hleftOut : leftOut (resultsWithout earlier serial later) =
      [(serial, .macMismatch serial)] := by
    have hearlier := leftOut_resultsFor earlier
    have hlater := leftOut_resultsFor later
    unfold leftOut at hearlier hlater ⊢
    rw [resultsWithout, List.filterMap_append, List.filterMap_cons, hearlier, hlater]
    rfl
  rw [importOf_eq_ok (by decide), Import.ofResults, hleftOut, resultsWithout,
    List.filterMap_append, List.filterMap_cons, filterMap_resultsFor, filterMap_resultsFor,
    List.map_append]
  rfl

end Import

/-! ## Reading the container -/

section Reading

variable {earlier later : List Packaged} {sealed : List UInt8}
  (hportable : ∀ q ∈ earlier ++ p :: later, q.token.IsPortable)
  (hauthentic : ∀ q ∈ earlier ++ p :: later, q.IsAuthentic key macKey)
  (hmacKey : openSealed key sealed = some macKey.toList) (id : List UInt8) (h : '<' ∉ mac)

include hportable hauthentic hmacKey

/-- The other packages are read as they are without the forged one. -/
theorem resultsOf_withMac (policy : MacPolicy) :
    resultsOf (render (containerMarks id sealed (earlier ++ p.withMac mac h :: later)))
      (some key.toHex) policy =
        .ok (resultsFor earlier ++ (p.token.serial,
          readPackage ⟨some key, some macKey.toList⟩ policy p.token.serial
            (render (packageContent (p.withMac mac h)))) :: resultsFor later) := by
  simp only [List.forall_mem_append, List.forall_mem_cons] at hportable hauthentic
  obtain ⟨hportable, hp, hportable'⟩ := hportable
  obtain ⟨hauthentic, -, hauthentic'⟩ := hauthentic
  have htrimmed : ∀ q ∈ earlier ++ p.withMac mac h :: later, q.token.IsTrimmed := by
    simp only [List.forall_mem_append, List.forall_mem_cons]
    exact ⟨fun q hq => (hportable q hq).isTrimmed, hp.isTrimmed,
      fun q hq => (hportable' q hq).isTrimmed⟩
  rw [resultsOf_render (by simp) htrimmed hmacKey, List.map_append, List.map_cons,
    map_readPackage_eq_resultsFor hportable hauthentic,
    map_readPackage_eq_resultsFor hportable' hauthentic']
  rfl

/-- A forged package is read like the one that was written if signatures do not matter. -/
theorem resultsOf_withMac_ignore :
    resultsOf (render (containerMarks id sealed (earlier ++ p.withMac mac h :: later)))
      (some key.toHex) .ignore = .ok (resultsFor (earlier ++ p :: later)) := by
  have hp : (p.withMac mac h).token.IsPortable := hportable p (by simp)
  have hsealed : (p.withMac mac h).IsSealed key := (hauthentic p (by simp)).toIsSealed.withMac h
  have hread : readPackage ⟨some key, some macKey.toList⟩ .ignore (p.withMac mac h).token.serial
      (render (packageContent (p.withMac mac h))) = .ok (p.withMac mac h).described :=
    readPackage_render_of_isPortable hp hsealed (.inl rfl)
  rw [p.token_withMac h, p.described_withMac h] at hread
  rw [resultsOf_withMac hportable hauthentic hmacKey, hread]
  simp [resultsFor]

/-- A forged package fails if signatures matter. -/
theorem resultsOf_withMac_of_ne_ignore (hne : Text.trim mac ≠ Text.trim p.mac)
    (hpolicy : policy ≠ .ignore) :
    resultsOf (render (containerMarks id sealed (earlier ++ p.withMac mac h :: later)))
      (some key.toHex) policy = .ok (resultsWithout earlier p.token.serial later) := by
  have hp : (p.withMac mac h).token.IsPortable := hportable p (by simp)
  have hfails : FailsCheck ⟨some key, some macKey.toList⟩
      (render (packageContent (p.withMac mac h))) :=
    failsCheck_render hp.not_endsIn ((hauthentic p (by simp)).isSigned.not_withMac h hne) (some key)
  rw [resultsOf_withMac hportable hauthentic hmacKey, readPackage_of_failsCheck hfails hpolicy]
  rfl

/-- If signatures do not matter, everything is read. -/
theorem read_withMac_ignore :
    read (render (containerMarks id sealed (earlier ++ p.withMac mac h :: later)))
      (some key.toHex) .ignore = .ok ⟨(earlier ++ p :: later).map Packaged.described, []⟩ := by
  rw [read, resultsOf_withMac_ignore hportable hauthentic hmacKey]
  exact importOf_resultsFor .ignore (earlier ++ p :: later)

/-- If packages that fail are left out, the others are read. -/
theorem read_withMac_leaveOut (hne : Text.trim mac ≠ Text.trim p.mac) :
    read (render (containerMarks id sealed (earlier ++ p.withMac mac h :: later)))
      (some key.toHex) .leaveOut =
        .ok ⟨(earlier ++ later).map Packaged.described, [p.token.serial]⟩ := by
  rw [read, resultsOf_withMac_of_ne_ignore hportable hauthentic hmacKey id h hne (by decide)]
  exact importOf_leaveOut_resultsWithout earlier later p.token.serial

/-- If packages that fail are not accepted, nothing is read. -/
theorem read_withMac_refuse (hne : Text.trim mac ≠ Text.trim p.mac) :
    read (render (containerMarks id sealed (earlier ++ p.withMac mac h :: later)))
      (some key.toHex) .refuse = .error (.macMismatch p.token.serial) := by
  rw [read, resultsOf_withMac_of_ne_ignore hportable hauthentic hmacKey id h hne (by decide)]
  exact importOf_refuse_resultsWithout earlier later p.token.serial

end Reading

end TokenInventory.KeyContainer
