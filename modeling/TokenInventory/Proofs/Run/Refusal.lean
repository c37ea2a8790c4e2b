import TokenInventory.Proofs.KeyContainer.Policy
import TokenInventory.Proofs.Run.ImportChannel

/-!
# Loading containers whose signatures have to fit

A container is refused as a whole if one of its packages fails the check of its signature, and then
the store stays as it is (`loadTokens_refuse`). Else no package fails it, whether or not the channel
lasts until all tokens are added. A package whose type is unknown or whose sealed seed cannot be
read does not get as far as that check: it is left out, and the other packages are imported although
it is not signed (`loadTokens_refuse_unreadable`).
-/

namespace TokenInventory

namespace KeyContainer

variable {keys : Keys} {policy : MacPolicy} {container : List Char} {results : List PackageResult}

/-- Why a container is refused as a whole if signatures have to fit. -/
inductive RefusedBecause (key : Option String) (container : List Char) : ExchangeError → Prop
  | invalidKey {e : ExchangeError} (hkey : givenKey key = .error e) :
    RefusedBecause key container e
  | noKeyPackage {given : Option Key} (hkey : givenKey key = .ok given)
    (hnil : packagesOf container = []) : RefusedBecause key container (.malformed .noKeyPackage)
  /-- The first package that fails is named. -/
  | macMismatch {given : Option Key} {package : List Char} {position : Nat}
    (hkey : givenKey key = .ok given)
    (hpackage : (packagesOf container)[position]? = some package)
    (hfails : FailsCheck (.ofContainer given container) package)
    (hfirst : ∀ earlier < position, ∀ package ∈ (packagesOf container)[earlier]?,
      ¬FailsCheck (.ofContainer given container) package) :
    RefusedBecause key container (.macMismatch (labelOf position package))

/-- Whether a package does no harm to an import if signatures have to fit: what it holds encrypted
is signed, or it could not be checked and is left out. -/
def IsHarmless (keys : Keys) (notParsed : List String) (position : Nat) (package : List Char) :
    Prop :=
  HoldsEncrypted package →
    IsSigned keys package ∨ ¬IsChecked package ∧ labelOf position package ∈ notParsed

/-- Whether no package of a container fails the check of its signature, so that all that is
encrypted is signed or was left out before the check. -/
def PassesCheck (key : Option String) (container : List Char) (notParsed : List String) : Prop :=
  ∃ given, givenKey key = .ok given ∧ packagesOf container ≠ [] ∧
    ∀ position, ∀ package ∈ (packagesOf container)[position]?,
      ¬FailsCheck (.ofContainer given container) package ∧
        IsHarmless (.ofContainer given container) notParsed position package

/-- A package that does not fail does no harm. -/
theorem isHarmless_of_not_failsCheck {package : List Char} {position : Nat}
    (hpackage : (packagesOf container)[position]? = some package)
    (h : ¬FailsCheck keys package) : IsHarmless keys
      (Import.ofResults (readPackages keys policy container)).notParsed position package := by
  intro hencrypted
  -- Were it checked without being signed, it would fail; so reading it ends before the check.
  refine or_iff_not_imp_left.2 fun hsigned => ?_
  have hchecked : ¬IsChecked package := fun hchecked => h ⟨hchecked, hsigned⟩
  refine ⟨hchecked, ?_⟩
  have hmem : (labelOf position package, readPackage keys policy (labelOf position package)
      package) ∈ readPackages keys policy container :=
    mem_readPackages_iff.2 ⟨package, position, hpackage, rfl⟩
  cases hread : readPackage keys policy (labelOf position package) package with
  | error e => exact Import.mem_notParsed_ofResults (hread ▸ hmem)
  | ok token => exact absurd (isChecked_of_readPackage hread hencrypted) hchecked

/-- The first mismatch is the first package that fails. -/
theorem exists_first_of_findSome? (hpolicy : policy ≠ .ignore) {serial : String}
    (h : (readPackages keys policy container).findSome? mismatch? = some serial) :
    ∃ package, ∃ position : Nat, (packagesOf container)[position]? = some package ∧
      FailsCheck keys package ∧ labelOf position package = serial ∧
      ∀ earlier < position, ∀ package ∈ (packagesOf container)[earlier]?,
        ¬FailsCheck keys package := by
  obtain ⟨before, r, after, heq, hmismatch, hbefore⟩ := List.findSome?_eq_some_iff.1 h
  have hget (position : Nat) := getElem?_readPackages keys policy container position
  rw [heq] at hget
  have hhere := hget before.length
  rw [List.getElem?_append_right (Nat.le_refl _), Nat.sub_self, List.getElem?_cons_zero] at hhere
  obtain ⟨package, hpackage, rfl⟩ := Option.map_eq_some_iff.1 hhere.symm
  obtain ⟨hfails, hlabel⟩ :=
    (readPackage_eq_macMismatch_iff hpolicy).1 (mismatch?_eq_some_iff.1 hmismatch)
  refine ⟨package, before.length, hpackage, hfails, hlabel, fun earlier hlt package hearlier => ?_⟩
  intro hfails
  -- A package that fails is a mismatch, and none comes before the first one.
  have hthere := hget earlier
  rw [List.getElem?_append_left hlt, hearlier, Option.map_some,
    readPackage_of_failsCheck hfails hpolicy] at hthere
  cases hbefore _ (List.mem_of_getElem? hthere)

variable {key : Option String} {given : Option Key}

/-- What the packages of a container are refused for names the first one that fails. -/
theorem refusedBecause_of_importOf (hkey : givenKey key = .ok given) {e : ExchangeError}
    (h : importOf .refuse (readPackages (.ofContainer given container) .refuse container) =
      .error e) : RefusedBecause key container e := by
  rcases importOf_refuse_cases
    (readPackages (.ofContainer given container) .refuse container) with
    ⟨heq, -⟩ | ⟨serial, heq, hsome⟩
  · cases h.symm.trans (heq.trans (importOf_eq_ok (by decide) _))
  · obtain ⟨package, position, hpackage, hfails, rfl, hfirst⟩ :=
      exists_first_of_findSome? MacPolicy.refuse_ne_ignore hsome
    cases h.symm.trans heq
    exact .macMismatch hkey hpackage hfails hfirst

/-- Packages that are not refused pass the check. -/
theorem passesCheck_of_importOf (hkey : givenKey key = .ok given) (hnil : packagesOf container ≠ [])
    {content : Import}
    (h : importOf .refuse (readPackages (.ofContainer given container) .refuse container) =
      .ok content) : PassesCheck key container content.notParsed := by
  refine ⟨given, hkey, hnil, fun position package hpackage => ?_⟩
  rcases importOf_refuse_cases
    (readPackages (.ofContainer given container) .refuse container) with
    ⟨heq, hnone⟩ | ⟨serial, heq, -⟩
  · have hfails : ¬FailsCheck (.ofContainer given container) package := fun hfails => by
      obtain ⟨serial, hsome⟩ := (findSome?_mismatch?_readPackages
        MacPolicy.refuse_ne_ignore).2 ⟨package, List.mem_of_getElem? hpackage, hfails⟩
      cases hnone.symm.trans hsome
    cases h.symm.trans (heq.trans (importOf_eq_ok (by decide) _))
    exact ⟨hfails, isHarmless_of_not_failsCheck hpackage hfails⟩
  · cases h.symm.trans heq

end KeyContainer

/-! ## Adding tokens -/

/-- What was left out stays left out while tokens are added. -/
theorem notParsed_addToken (p : ImportProgress) (packaged : KeyContainer.PackagedToken) :
    (addToken p packaged).summary.notParsed = p.summary.notParsed := by
  have hsaveNew (q : ImportProgress) (token : Token) :
      (saveNew q token).summary.notParsed = q.summary.notParsed := by
    unfold saveNew
    dsimp only
    split
    · rfl
    · split <;> next hsave => exact (congrArg (fun r => r.2.summary.notParsed) hsave).symm
  unfold addToken
  dsimp only
  split_ifs
  · rfl
  · rfl
  · exact hsaveNew _ _

theorem notParsed_foldl_addToken (tokens : List KeyContainer.PackagedToken) (p : ImportProgress) :
    (tokens.foldl addToken p).summary.notParsed = p.summary.notParsed := by
  induction tokens generalizing p with
  | nil => rfl
  | cons token tokens ih => rw [List.foldl_cons, ih, notParsed_addToken]

/-! ## The whole container -/

open KeyContainer

variable {text path : String} {key : Option String} {p : ImportProgress}

theorem loadTokens_of_resultsOf_error {e : ExchangeError} {policy : MacPolicy}
    (hresults : resultsOf text.toList key policy = .error e) :
    loadTokens ⟨path, .ok text⟩ key policy p = (.error (.content e), p) := by
  unfold loadTokens ImportFile.text
  dsimp only
  rw [hresults]

/-- A container of which some packages were read is refused without touching the store, or its
tokens are added as far as the channel lasts. -/
theorem loadTokens_of_resultsOf_ok {file : ImportFile} (htext : file.text = .ok text)
    {policy : MacPolicy} {results : List PackageResult}
    (hresults : resultsOf text.toList key policy = .ok results) (p : ImportProgress) :
    (∃ e, importOf policy results = .error e ∧
      (loadTokens file key policy p).1 = .error (.content e) ∧
      (loadTokens file key policy p).2.store = p.store) ∨
    ∃ content transcript, importOf policy results = .ok content ∧
      let start : ImportProgress :=
        { store := p.store, transcript, summary := { notParsed := content.notParsed } }
      let q := content.tokens.foldl addToken start
      (p.HasOpenChannel → start.HasOpenChannel) ∧
      loadTokens file key policy p =
        if q.isBroken then (.error .brokenChannel, q)
        else (.ok q.summary, q.write (importOutputs q.summary)) := by
  unfold loadTokens
  rw [htext]
  dsimp only
  rw [hresults]
  dsimp only
  cases importOf policy results with
  | error e => exact .inl ⟨e, rfl, rfl, rfl⟩
  | ok content =>
    refine .inr ⟨content, _, rfl, fun hopen => ?_, rfl⟩
    exact Transcript.isBroken_writeAll hopen.limit_eq hopen.isBroken_eq _ |>.elim .mk

/-- If signatures have to fit, loading a container is an error for one of three reasons, and then
the store is as it was; else no package fails the check of its signature, so that all that is
encrypted is signed or was left out before the check. This is so for a load that is cut short, too,
because the channel breaks. -/
theorem loadTokens_refuse (text path : String) (key : Option String) (p : ImportProgress) :
    match loadTokens ⟨path, .ok text⟩ key .refuse p with
    | (.error (.content reason), p') =>
      p'.store = p.store ∧ RefusedBecause key text.toList reason
    | (.error .brokenChannel, p') =>
      ¬p.HasOpenChannel ∧ PassesCheck key text.toList p'.summary.notParsed
    | (.error (.unreadable _ _), _) => False
    | (.ok summary, _) => PassesCheck key text.toList summary.notParsed := by
  cases hkey : givenKey key with
  | error e =>
    rw [loadTokens_of_resultsOf_error (resultsOf_of_error hkey)]
    exact ⟨rfl, .invalidKey hkey⟩
  | ok given =>
    by_cases hnil : packagesOf text.toList = []
    · rw [loadTokens_of_resultsOf_error (resultsOf_of_packagesOf_eq_nil hkey hnil)]
      exact ⟨rfl, .noKeyPackage hkey hnil⟩
    · have hresults : resultsOf text.toList key .refuse =
          .ok (readPackages (.ofContainer given text.toList) .refuse text.toList) :=
        resultsOf_of_packagesOf_ne_nil hkey hnil
      have htext : (⟨path, .ok text⟩ : ImportFile).text = .ok text := rfl
      rcases loadTokens_of_resultsOf_ok htext hresults p with
        ⟨e, himport, herror, hstore⟩ | ⟨content, transcript, himport, hopen, hload⟩
      · generalize loadTokens ⟨path, .ok text⟩ key .refuse p = r at herror hstore ⊢
        obtain ⟨result, p'⟩ := r
        obtain rfl : result = _ := herror
        exact ⟨hstore, refusedBecause_of_importOf hkey himport⟩
      · generalize hq : content.tokens.foldl addToken _ = q at hload
        have hpasses : PassesCheck key text.toList q.summary.notParsed := by
          rw [← hq, notParsed_foldl_addToken]
          exact passesCheck_of_importOf hkey hnil himport
        rw [hload]
        cases hbroken : q.isBroken with
        | true =>
          refine ⟨fun h => ?_, hpasses⟩
          have hend := hq ▸ (hopen h).foldl_addToken content.tokens
          cases hend.isBroken_eq.symm.trans hbroken
        | false => exact hpasses

set_option maxRecDepth 2000 in
/-- The second package holds an encrypted value that is not signed and cannot be read. It is left
out, and the first package is imported. -/
theorem loadTokens_refuse_unreadable :
    let text := "<KeyPackage><Key Algorithm=\"urn:ietf:params:xml:ns:keyprov:pskc:hotp\"/>
      <Secret><PlainValue>AA==</PlainValue></Secret></KeyPackage>
      <KeyPackage><Secret><EncryptedValue></EncryptedValue></Secret></KeyPackage>"
    (∃ package ∈ packagesOf text.toList, HoldsEncrypted package ∧
        ¬IsSigned (.ofContainer none text.toList) package) ∧
      (loadTokens ⟨"tokens.xml", .ok text⟩ none .refuse
        { store := { tokens := .empty, users := [], realms := .empty } }).1 =
          .ok { imported := 1, notParsed := ["KeyPackage #2"] } := by
  intro text
  -- Decoding the text in the kernel is slow, so its characters are taken from the literal.
  have htext := (rfl : text = String.ofList _)
  let secret := "<EncryptedValue></EncryptedValue>"
  have hmem : ("<Secret>" ++ secret ++ "</Secret>").toList ∈ packagesOf text.toList := by
    rw [htext, String.toList_ofList]
    decide +kernel
  refine ⟨⟨_, hmem, ⟨secret.toList, [], ?_, ?_⟩, ?_⟩, ?_⟩
  · decide +kernel
  · decide +kernel
  · rintro ⟨-, -, -, macKey, -, hmacKey, -⟩
    cases hmacKey
  · unfold loadTokens ImportFile.text
    dsimp only
    rw [htext, String.toList_ofList]
    decide +kernel

end TokenInventory
