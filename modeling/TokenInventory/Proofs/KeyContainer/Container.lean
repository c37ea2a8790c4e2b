import Mathlib.Data.List.TakeWhile
import TokenInventory.Proofs.KeyContainer.Package

/-!
# Reading a written container

The packages of a container are found one after the other, whatever their number
(`elements_render`), and the key that signs is opened with the key of the container
(`ofContainer_render`). So a container is read package by package, under the serials of its tokens
(`resultsOf_render`), and one of portable tokens is read back with nothing left out, under any
policy (`resultsOf_render_of_isPortable`).
-/

namespace TokenInventory.KeyContainer

/-- The marks of key packages, one after the other. -/
def packagesMarks (packages : List Packaged) : List Mark :=
  packages.flatMap packageMarks

/-- The marks of the foot. -/
def footMarks : List Mark :=
  [.closing .keyContainer, .text ['\n']]

/-- The marks of a container, the key that signs as it is sealed. -/
def containerMarks (id sealed : List UInt8) (packages : List Packaged) : List Mark :=
  headMarks (identifier id).toList (Base64.encode sealed) ++
    (packagesMarks packages ++ footMarks)

theorem isSound_packagesMarks (packages : List Packaged) :
    ∀ m ∈ packagesMarks packages ++ footMarks, m.IsSound := by
  rw [List.forall_mem_append]
  refine ⟨fun m hm => ?_, ?_⟩
  · obtain ⟨p, -, hm⟩ := List.mem_flatMap.1 hm
    exact isSound_packageMarks p m hm
  · simp only [footMarks, List.forall_mem_cons, List.not_mem_nil, false_implies, implies_true,
      and_true]
    exact ⟨trivial, isSound_text (by decide)⟩

theorem isSound_containerMarks (id sealed : List UInt8) (packages : List Packaged) :
    ∀ m ∈ containerMarks id sealed packages, m.IsSound :=
  List.forall_mem_append.2 ⟨isSound_headMarks (isPlain_identifier id) sealed,
    isSound_packagesMarks packages⟩

/-! ## The packages -/

theorem elements_of_firstElement? {name s content rest : List Char}
    (h : firstElement? name s = some (content, rest)) :
    elements name s = content :: elements name rest := by
  rw [elements]
  split
  · next hnone => cases hnone.symm.trans h
  · next hsome => cases hsome.symm.trans h; rfl

theorem elements_of_firstElement?_eq_none {name s : List Char} (h : firstElement? name s = none) :
    elements name s = [] := by
  rw [elements]
  split
  · rfl
  · next hsome => cases hsome.symm.trans h

/-- The packages after marks without any are found, each with its own content. -/
theorem elements_render {before : List Mark} (hbefore : ∀ m ∈ before, m.IsSound)
    (hlacks : Mark.lacks .keyPackage before = true) (packages : List Packaged) :
    elements "KeyPackage".toList (render (before ++ (packagesMarks packages ++ footMarks))) =
      packages.map fun p => render (packageContent p) := by
  induction packages generalizing before with
  | nil =>
    have hsound := List.forall_mem_append.2 ⟨hbefore, isSound_packagesMarks []⟩
    have hnone : Mark.elementOf? .keyPackage (before ++ (packagesMarks [] ++ footMarks)) =
        none := Mark.elementOf?_eq_none (by rw [Mark.lacks_append, hlacks]; rfl)
    have hfirst := firstElement?_render .keyPackage hsound
    rw [hnone] at hfirst
    exact elements_of_firstElement?_eq_none hfirst
  | cons p packages ih =>
    have hsound := List.forall_mem_append.2 ⟨hbefore, isSound_packagesMarks (p :: packages)⟩
    have hcontent : Mark.lacks .keyPackage (packageContent p) = true :=
      lacks_packageContent p (.inr (.inr rfl)) (by cases p.type <;> rfl)
    have hmarks : before ++ (packagesMarks (p :: packages) ++ footMarks) =
        (before ++ [.text [' ', ' ']]) ++ .opening .keyPackage [] ::
          (packageContent p ++ .closing .keyPackage ::
            ([.text ['\n']] ++ (packagesMarks packages ++ footMarks))) := by
      simp [packagesMarks, packageMarks, block, packageContent]
    have hfirst := firstElement?_render .keyPackage hsound
    rw [hmarks, Mark.elementOf?_append (by rw [Mark.lacks_append, hlacks]; rfl) hcontent] at hfirst
    have hline : ∀ m ∈ [Mark.text ['\n']], m.IsSound := by simp [Mark.IsSound]
    rw [hmarks, List.map_cons, ← ih hline rfl]
    exact elements_of_firstElement? hfirst

/-! ## The keys -/

variable {key macKey : Key} {packages : List Packaged}

/-- The key that signs is opened with the key of the container. -/
theorem ofContainer_render {sealed : List UInt8} (h : openSealed key sealed = some macKey.toList)
    (id : List UInt8) : Keys.ofContainer (some key)
      (render (containerMarks id sealed packages)) = ⟨some key, some macKey.toList⟩ := by
  have hholds : Mark.Holds .macKey (lines 2 (cipherChildren 3 (Base64.encode sealed)))
      (containerMarks id sealed packages) := by
    refine .append (.prepend (.prepend (.append (.block ?_ (by decide)) _) [_] rfl) _ rfl) _
    exact .lines (Mark.holds_self rfl) [] [] rfl 1
  obtain ⟨container, hcontainer, hcipher⟩ :
      ∃ text, element? "MACKey" (render (containerMarks id sealed packages)) = some text ∧
        (element? "CipherValue" text).bind bytes? = some sealed :=
    cipherValue_render .macKey (isSound_containerMarks id sealed packages) hholds
  simp only [Keys.ofContainer, hcontainer, hcipher, h, Option.bind_eq_bind, Option.bind_some]

/-! ## The whole container -/

/-- The packages of a container are read one by one, each under the serial of its token. -/
theorem readPackages_render (htrimmed : ∀ p ∈ packages, p.token.IsTrimmed)
    (id sealed : List UInt8) (keys : Keys) (policy : MacPolicy) :
    readPackages keys policy (render (containerMarks id sealed packages)) =
      packages.map fun p => (p.token.serial,
        readPackage keys policy p.token.serial (render (packageContent p))) := by
  have helements :
      elements "KeyPackage".toList (render (containerMarks id sealed packages)) =
        packages.map fun p => render (packageContent p) :=
    elements_render (isSound_headMarks (isPlain_identifier id) sealed) rfl packages
  have hfst := List.zipIdx_map_fst 0 packages
  rw [readPackages, helements, List.zipIdx_map, List.map_map]
  conv_rhs => rw [← hfst, List.map_map]
  refine List.map_congr_left fun e he => ?_
  simp only [Function.comp_apply, Prod.map]
  rw [labelOf_render (htrimmed e.1 (List.fst_mem_of_mem_zipIdx he))]

/-- A container that is not empty is read with the key in hexadecimal digits. -/
theorem resultsOf_render (hne : packages ≠ []) (htrimmed : ∀ p ∈ packages, p.token.IsTrimmed)
    {sealed : List UInt8} (hmacKey : openSealed key sealed = some macKey.toList) (id : List UInt8)
    (policy : MacPolicy) :
    resultsOf (render (containerMarks id sealed packages)) (some key.toHex) policy =
      .ok (packages.map fun p => (p.token.serial, readPackage ⟨some key, some macKey.toList⟩ policy
        p.token.serial (render (packageContent p)))) := by
  have hkey : Key.ofHex key.toHex.toList = .ok key := key.ofHex_toHex
  unfold resultsOf
  simp only [Option.mapM_some, hkey, bind, Except.bind, pure, Except.pure, Functor.map, Except.map,
    ofContainer_render hmacKey, readPackages_render htrimmed]
  obtain ⟨p, packages, rfl⟩ := List.exists_cons_of_ne_nil hne
  rfl

/-- What reading a container of the given packages gives, package by package. -/
def resultsFor (packages : List Packaged) : List PackageResult :=
  packages.map fun p => (p.token.serial, .ok p.described)

/-- Everything that the package of a portable token says is read, if its signature is right or does
not matter. -/
theorem readPackage_render_of_isPortable {policy : MacPolicy} {p : Packaged}
    (h : p.token.IsPortable) (hsealed : p.IsSealed key)
    (hpasses : policy = .ignore ∨ p.IsSigned macKey) :
    readPackage ⟨some key, some macKey.toList⟩ policy p.token.serial
      (render (packageContent p)) = .ok p.described := by
  rw [readPackage_render_of_passes h.isTrimmed h.not_endsIn hsealed hpasses,
    Packaged.read_eq_described h hsealed.ofToken?_eq]

theorem map_readPackage_eq_resultsFor (hportable : ∀ p ∈ packages, p.token.IsPortable)
    (hauthentic : ∀ p ∈ packages, p.IsAuthentic key macKey) (policy : MacPolicy) :
    (packages.map fun p => (p.token.serial, readPackage ⟨some key, some macKey.toList⟩ policy
      p.token.serial (render (packageContent p)))) = resultsFor packages :=
  List.map_congr_left fun p hp => by
    rw [readPackage_render_of_isPortable (hportable p hp) (hauthentic p hp).toIsSealed
      (.inr (hauthentic p hp).isSigned)]

/-- Everything that the packages of portable tokens say is read. -/
theorem resultsOf_render_of_isPortable (hne : packages ≠ [])
    (hportable : ∀ p ∈ packages, p.token.IsPortable)
    (hauthentic : ∀ p ∈ packages, p.IsAuthentic key macKey) {sealed : List UInt8}
    (hmacKey : openSealed key sealed = some macKey.toList) (id : List UInt8) (policy : MacPolicy) :
    resultsOf (render (containerMarks id sealed packages)) (some key.toHex) policy =
      .ok (resultsFor packages) := by
  rw [resultsOf_render hne (fun p hp => (hportable p hp).isTrimmed) hmacKey,
    map_readPackage_eq_resultsFor hportable hauthentic]

theorem mismatch?_of_mem_resultsFor {packages : List Packaged} :
    ∀ r ∈ resultsFor packages, mismatch? r = none := by
  rw [resultsFor, List.forall_mem_map]
  exact fun _ _ => rfl

theorem leftOut_resultsFor (packages : List Packaged) : leftOut (resultsFor packages) = [] := by
  simp [leftOut, resultsFor]

theorem filterMap_resultsFor (packages : List Packaged) :
    (resultsFor packages).filterMap (fun r => r.2.toOption) = packages.map Packaged.described := by
  rw [resultsFor, List.filterMap_map]
  exact congrFun List.filterMap_eq_map packages

/-- Nothing in the container is left out, whatever the policy. -/
theorem importOf_resultsFor (policy : MacPolicy) (packages : List Packaged) :
    importOf policy (resultsFor packages) = .ok ⟨packages.map Packaged.described, []⟩ := by
  have hmatch : (resultsFor packages).findSome? mismatch? = none :=
    List.findSome?_eq_none_iff.2 mismatch?_of_mem_resultsFor
  have hresults : Import.ofResults (resultsFor packages) =
      ⟨packages.map Packaged.described, []⟩ := by
    rw [Import.ofResults, filterMap_resultsFor, leftOut_resultsFor]
    rfl
  unfold importOf
  rw [hmatch, hresults]
  cases policy <;> rfl

end TokenInventory.KeyContainer
