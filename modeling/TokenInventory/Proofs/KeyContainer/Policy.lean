import TokenInventory.Proofs.KeyContainer.Signature

/-!
# Policies for signatures

A policy matters only for packages that fail the check of their signature. Without regard to
signatures such a package is read like any other; else it is a mismatch, and the policies that
regard signatures differ in what becomes of the container (`importOf_refuse_cases`). So a container
is read under the three policies with results that line up package by package
(`read_under_policies`).
-/

namespace TokenInventory.KeyContainer

theorem MacPolicy.leaveOut_ne_ignore : leaveOut ≠ ignore := by
  decide

theorem MacPolicy.refuse_ne_ignore : refuse ≠ ignore := by
  decide

/-- The key that a text gives, if there is a text. -/
def givenKey (key : Option String) : Except ExchangeError (Option Key) :=
  match key with
  | none => .ok none
  | some text =>
    match Key.ofHex text.toList with
    | .ok key => .ok (some key)
    | .error reason => .error (.invalidKey reason)

/-- The key packages of a container. -/
def packagesOf (container : List Char) : List (List Char) :=
  elements "KeyPackage".toList container

variable {keys : Keys} {policy policy' : MacPolicy} {container : List Char} {key : Option String}
  {results : List PackageResult}

/-! ## The results of the packages -/

theorem length_readPackages (keys : Keys) (policy : MacPolicy) (container : List Char) :
    (readPackages keys policy container).length = (packagesOf container).length := by
  rw [readPackages, List.length_map, List.length_zipIdx, packagesOf]

theorem getElem?_readPackages (keys : Keys) (policy : MacPolicy) (container : List Char)
    (position : Nat) : (readPackages keys policy container)[position]? =
      (packagesOf container)[position]?.map fun package =>
        (labelOf position package, readPackage keys policy (labelOf position package) package) := by
  rw [readPackages, packagesOf, List.getElem?_map, List.getElem?_zipIdx, Option.map_map]
  simp only [Function.comp_def, Nat.zero_add]

theorem mem_readPackages_iff {r : PackageResult} :
    r ∈ readPackages keys policy container ↔
      ∃ package, ∃ position : Nat, (packagesOf container)[position]? = some package ∧
        (labelOf position package,
          readPackage keys policy (labelOf position package) package) = r := by
  simp only [List.mem_iff_getElem?, getElem?_readPackages, Option.map_eq_some_iff]
  exact exists_comm

/-- The policies that regard signatures read every package in the same way. -/
theorem readPackages_eq (hpolicy : policy ≠ .ignore) (hpolicy' : policy' ≠ .ignore)
    (keys : Keys) (container : List Char) :
    readPackages keys policy container = readPackages keys policy' container := by
  unfold readPackages
  refine List.map_congr_left fun e _ => ?_
  obtain ⟨package, position⟩ := e
  dsimp only
  by_cases h : FailsCheck keys package
  · rw [readPackage_of_failsCheck h hpolicy, readPackage_of_failsCheck h hpolicy']
  · rw [readPackage_of_not_failsCheck h policy, readPackage_of_not_failsCheck h policy']

theorem resultsOf_of_error {e : ExchangeError} (hkey : givenKey key = .error e) :
    resultsOf container key policy = .error e := by
  cases key with
  | none => cases hkey
  | some text =>
    unfold givenKey at hkey
    unfold resultsOf
    dsimp only at hkey
    rw [Option.mapM_some]
    cases hgiven : Key.ofHex text.toList with
    | error reason =>
      rw [hgiven] at hkey
      cases hkey
      rfl
    | ok given =>
      rw [hgiven] at hkey
      cases hkey

theorem resultsOf_of_ok {given : Option Key} (hkey : givenKey key = .ok given) :
    resultsOf container key policy =
      match readPackages (Keys.ofContainer given container) policy container with
      | [] => .error (.malformed .noKeyPackage)
      | results => .ok results := by
  cases key with
  | none =>
    cases hkey
    rfl
  | some text =>
    unfold givenKey at hkey
    unfold resultsOf
    dsimp only at hkey
    rw [Option.mapM_some]
    cases hgiven : Key.ofHex text.toList with
    | error reason =>
      rw [hgiven] at hkey
      cases hkey
    | ok given =>
      rw [hgiven] at hkey
      cases hkey
      rfl

/-- A container without key packages is refused, whatever the policy. -/
theorem resultsOf_of_packagesOf_eq_nil {given : Option Key} (hkey : givenKey key = .ok given)
    (hnil : packagesOf container = []) :
    resultsOf container key policy = .error (.malformed .noKeyPackage) := by
  have hlength := length_readPackages (Keys.ofContainer given container) policy container
  rw [hnil, List.length_nil, List.length_eq_zero_iff] at hlength
  rw [resultsOf_of_ok hkey, hlength]

theorem resultsOf_of_packagesOf_ne_nil {given : Option Key} (hkey : givenKey key = .ok given)
    (hne : packagesOf container ≠ []) : resultsOf container key policy =
      .ok (readPackages (Keys.ofContainer given container) policy container) := by
  have hlength := length_readPackages (Keys.ofContainer given container) policy container
  obtain ⟨r, results, hcons⟩ := List.exists_cons_of_ne_nil <|
    List.ne_nil_of_length_pos (hlength.symm ▸ List.length_pos_iff.2 hne)
  rw [resultsOf_of_ok hkey, hcons]

/-! ## Mismatches -/

theorem mismatch?_eq_some_iff {r : PackageResult} {serial : String} :
    mismatch? r = some serial ↔ r.2 = .error (.macMismatch serial) := by
  obtain ⟨label, result⟩ := r
  constructor
  · intro h
    unfold mismatch? at h
    split at h
    · next heq =>
      cases h
      cases heq
      rfl
    · cases h
  · rintro rfl
    rfl

theorem mem_readPackages_of_mismatch? {r : PackageResult} {serial : String}
    (hr : r ∈ readPackages keys policy container) (h : mismatch? r = some serial) :
    r.1 = serial ∧ ∃ package ∈ packagesOf container, FailsCheck keys package := by
  obtain ⟨package, position, hmem, rfl⟩ := mem_readPackages_iff.1 hr
  rw [mismatch?_eq_some_iff] at h
  have hpolicy : policy ≠ .ignore := by
    rintro rfl
    exact readPackage_ignore_ne_macMismatch keys _ serial package h
  obtain ⟨hfails, hlabel⟩ := (readPackage_eq_macMismatch_iff hpolicy).1 h
  exact ⟨hlabel, package, List.mem_of_getElem? hmem, hfails⟩

/-- There is a mismatch among the packages if and only if one of them fails. -/
theorem findSome?_mismatch?_readPackages (hpolicy : policy ≠ .ignore) :
    (∃ serial, (readPackages keys policy container).findSome? mismatch? = some serial) ↔
      ∃ package ∈ packagesOf container, FailsCheck keys package := by
  constructor
  · rintro ⟨serial, h⟩
    obtain ⟨r, hr, h⟩ := List.exists_of_findSome?_eq_some h
    exact (mem_readPackages_of_mismatch? hr h).2
  · rintro ⟨package, hmem, hfails⟩
    obtain ⟨position, hmem⟩ := List.getElem?_of_mem hmem
    by_contra! hnone
    have hnone := List.findSome?_eq_none_iff.1 (Option.eq_none_iff_forall_ne_some.2 hnone)
    have := hnone _ (mem_readPackages_iff.2 ⟨package, position, hmem, rfl⟩)
    rw [readPackage_of_failsCheck hfails hpolicy] at this
    cases this

/-! ## Imports -/

theorem importOf_eq_ok (hpolicy : policy ≠ .refuse) (results : List PackageResult) :
    importOf policy results = .ok (.ofResults results) := by
  cases policy with
  | refuse => exact absurd rfl hpolicy
  | ignore => rfl
  | leaveOut => rfl

/-- Refusing an import gives what leaving out gives, or an error that names a package which is left
out. -/
theorem importOf_refuse_cases (results : List PackageResult) :
    (importOf .refuse results = importOf .leaveOut results ∧ results.findSome? mismatch? = none) ∨
      ∃ serial, importOf .refuse results = .error (.macMismatch serial) ∧
        results.findSome? mismatch? = some serial := by
  unfold importOf
  cases results.findSome? mismatch? with
  | none => exact .inl ⟨rfl, rfl⟩
  | some serial => exact .inr ⟨serial, rfl, rfl⟩

theorem Import.ofResults_cons_ok (label : String) (token : PackagedToken)
    (results : List PackageResult) : ofResults ((label, .ok token) :: results) =
      ⟨token :: (ofResults results).tokens, (ofResults results).notParsed⟩ :=
  rfl

theorem Import.ofResults_cons_error (label : String) (e : ExchangeError)
    (results : List PackageResult) : ofResults ((label, .error e) :: results) =
      ⟨(ofResults results).tokens, label :: (ofResults results).notParsed⟩ :=
  rfl

/-- Every package is either read or left out. -/
theorem Import.length_ofResults (results : List PackageResult) :
    (ofResults results).tokens.length + (ofResults results).notParsed.length = results.length := by
  induction results with
  | nil => rfl
  | cons r results ih =>
    obtain ⟨label, e | token⟩ := r
    · rw [ofResults_cons_error, List.length_cons, List.length_cons, ← ih, Nat.add_assoc]
    · rw [ofResults_cons_ok, List.length_cons, List.length_cons, ← ih, Nat.add_right_comm]

theorem Import.mem_notParsed_ofResults {label : String} {e : ExchangeError}
    (h : (label, .error e) ∈ results) : label ∈ (ofResults results).notParsed := by
  simp only [ofResults, leftOut, List.mem_map, List.mem_filterMap]
  exact ⟨(label, e), ⟨(label, .error e), h, rfl⟩, rfl⟩

theorem Import.tokens_ofResults_readPackages (keys : Keys) (policy : MacPolicy)
    (container : List Char) : (ofResults (readPackages keys policy container)).tokens =
      (packagesOf container).zipIdx.filterMap fun (package, position) =>
        (readPackage keys policy (labelOf position package) package).toOption := by
  rw [ofResults, readPackages, List.filterMap_map]
  rfl

/-- Leaving out gives the tokens of the packages that do not fail. -/
theorem Import.tokens_sublist (keys : Keys) (container : List Char) :
    (ofResults (readPackages keys .leaveOut container)).tokens.Sublist
      (ofResults (readPackages keys .ignore container)).tokens := by
  classical
  rw [tokens_ofResults_readPackages, tokens_ofResults_readPackages]
  -- A package that fails gives no token, and the policy does not matter for any other.
  have hfilter : ((packagesOf container).zipIdx.filterMap fun (package, position) =>
      (readPackage keys .leaveOut (labelOf position package) package).toOption) =
      ((packagesOf container).zipIdx.filter fun e => ¬FailsCheck keys e.1).filterMap
        fun (package, position) =>
          (readPackage keys .ignore (labelOf position package) package).toOption := by
    rw [List.filterMap_filter]
    refine List.filterMap_congr fun e _ => ?_
    obtain ⟨package, position⟩ := e
    by_cases h : FailsCheck keys package
    · simp [h, readPackage_of_failsCheck h MacPolicy.leaveOut_ne_ignore, Except.toOption]
    · simp [h, readPackage_of_not_failsCheck h .leaveOut]
  rw [hfilter]
  exact List.filter_sublist.filterMap _

/-! ## The three policies -/

/-- How the results of reading a container under the three policies are related, for its keys and
its packages. -/
structure Ordered (keys : Keys) (packages : List (List Char)) (unchecked soft : Import)
    (hard : Except ExchangeError Import) : Prop where
  length_unchecked : unchecked.tokens.length + unchecked.notParsed.length = packages.length
  length_soft : soft.tokens.length + soft.notParsed.length = packages.length
  tokens_sublist : soft.tokens.Sublist unchecked.tokens
  /-- The tokens are those of the packages that could be read, in their order. -/
  tokens_eq : soft.tokens = packages.zipIdx.filterMap fun (package, position) =>
    (readPackage keys .leaveOut (labelOf position package) package).toOption
  /-- What was read from an encrypted value is signed. -/
  isSigned : ∀ package ∈ packages, ∀ label token,
    readPackage keys .leaveOut label package = .ok token → HoldsEncrypted package →
      IsSigned keys package
  hard_cases : hard = .ok soft ∨ ∃ serial ∈ soft.notParsed, hard = .error (.macMismatch serial)
  hard_eq_macMismatch_iff : (∃ serial, hard = .error (.macMismatch serial)) ↔
    ∃ package ∈ packages, FailsCheck keys package

theorem ordered_readPackages (keys : Keys) (container : List Char) :
    Ordered keys (packagesOf container) (.ofResults (readPackages keys .ignore container))
      (.ofResults (readPackages keys .leaveOut container))
      (importOf .refuse (readPackages keys .leaveOut container)) where
  length_unchecked := by rw [Import.length_ofResults, length_readPackages]
  length_soft := by rw [Import.length_ofResults, length_readPackages]
  tokens_sublist := Import.tokens_sublist keys container
  tokens_eq := Import.tokens_ofResults_readPackages keys .leaveOut container
  isSigned _ _ _ _ hread hencrypted := isSigned_of_readPackage (by decide) hread hencrypted
  hard_cases := by
    rcases importOf_refuse_cases (readPackages keys .leaveOut container) with
      ⟨heq, -⟩ | ⟨serial, heq, hsome⟩
    · exact .inl (heq.trans (importOf_eq_ok (by decide) _))
    · obtain ⟨⟨label, result⟩, hr, hmismatch⟩ := List.exists_of_findSome?_eq_some hsome
      have hlabel : label = serial := (mem_readPackages_of_mismatch? hr hmismatch).1
      obtain rfl : result = .error (.macMismatch serial) := mismatch?_eq_some_iff.1 hmismatch
      exact .inr ⟨serial, hlabel ▸ Import.mem_notParsed_ofResults hr, heq⟩
  hard_eq_macMismatch_iff := by
    rw [← findSome?_mismatch?_readPackages MacPolicy.leaveOut_ne_ignore]
    refine exists_congr fun serial => ?_
    rcases importOf_refuse_cases (readPackages keys .leaveOut container) with
      ⟨heq, hnone⟩ | ⟨serial', heq, hsome⟩
    · rw [heq, hnone, importOf_eq_ok (by decide)]
      exact iff_of_false (fun h => by cases h) (fun h => by cases h)
    · simp [heq, hsome]

/-- An invalid key and a container without key packages are the same error under every policy; any
other container is read under the three of them with results that line up. -/
theorem read_under_policies (container : List Char) (key : Option String) :
    match givenKey key, packagesOf container with
    | .error e, _ => ∀ policy, read container key policy = .error e
    | .ok _, [] => ∀ policy, read container key policy = .error (.malformed .noKeyPackage)
    | .ok given, packages =>
      ∃ unchecked soft, read container key .ignore = .ok unchecked ∧
        read container key .leaveOut = .ok soft ∧
        Ordered (Keys.ofContainer given container) packages unchecked soft
          (read container key .refuse) := by
  cases hkey : givenKey key with
  | error e =>
    intro policy
    rw [read, resultsOf_of_error hkey]
    rfl
  | ok given =>
    cases hpackages : packagesOf container with
    | nil =>
      intro policy
      rw [read, resultsOf_of_packagesOf_eq_nil hkey hpackages]
      rfl
    | cons package packages =>
      have hne : packagesOf container ≠ [] := hpackages ▸ List.cons_ne_nil _ _
      have hread (policy : MacPolicy) : read container key policy =
          importOf policy (readPackages (Keys.ofContainer given container) policy container) := by
        rw [read, resultsOf_of_packagesOf_ne_nil hkey hne]
        rfl
      dsimp only
      rw [← hpackages, hread, hread, hread,
        readPackages_eq MacPolicy.refuse_ne_ignore MacPolicy.leaveOut_ne_ignore]
      exact ⟨_, _, importOf_eq_ok (by decide) _, importOf_eq_ok (by decide) _,
        ordered_readPackages _ container⟩

end TokenInventory.KeyContainer
