import TokenInventory.KeyContainer.Reader
import TokenInventory.Proofs.KeyContainer.Tag

/-!
# Signatures of key packages

The signature of a package is looked at once its type is known and its sealed seed is read
(`IsChecked`); nothing else about it has been read by then. A package that is checked but not signed
fails (`FailsCheck`), and this is all that a policy can change : a package that fails is a mismatch
unless signatures are ignored (`readPackage_of_failsCheck`), and any other package is read in the
same way under every policy (`readPackage_of_not_failsCheck`).

So a token read from a sealed seed is signed (`isSigned_of_readPackage`), but a package whose type
is unknown or whose sealed seed cannot be read is never a mismatch, whatever its signature.
-/

namespace TokenInventory

namespace KeyContainer

/-- Whether the secret of a package holds an encrypted value. -/
def HoldsEncrypted (package : List Char) : Prop :=
  ∃ secret encrypted, element? "Secret" package = some secret ∧
    element? "EncryptedValue" secret = some encrypted

/-- Whether a package has a secret whose encrypted value holds the given bytes. -/
def HoldsSealed (package secret : List Char) (sealed : List UInt8) : Prop :=
  ∃ encrypted, element? "Secret" package = some secret ∧
    element? "EncryptedValue" secret = some encrypted ∧
    (element? "CipherValue" encrypted).bind bytes? = some sealed

/-- Whether the signature in a secret is that of the given bytes under the key that signs. -/
def Signs (keys : Keys) (secret : List Char) (sealed : List UInt8) : Prop :=
  ∃ macKey mac, keys.macKey = some macKey ∧
    (element? "ValueMAC" secret).bind bytes? = some mac ∧ Sha256.hmac macKey sealed = mac

/-- Whether a package carries a signature of its sealed seed. -/
def IsSigned (keys : Keys) (package : List Char) : Prop :=
  ∃ secret sealed, HoldsSealed package secret sealed ∧ Signs keys secret sealed

/-- Whether the algorithm of a package names a type. -/
def NamesType (package : List Char) : Prop :=
  ∃ algorithm, ∃ type : PasswordType,
    attribute? "Key".toList "Algorithm".toList package = some algorithm ∧
      unescape algorithm = algorithmPrefix.toList ++ type.name.toList

/-- Whether reading a package gets as far as its signature. -/
def IsChecked (package : List Char) : Prop :=
  NamesType package ∧ ∃ secret sealed, HoldsSealed package secret sealed

/-- Whether a package fails the check of its signature. -/
def FailsCheck (keys : Keys) (package : List Char) : Prop :=
  IsChecked package ∧ ¬IsSigned keys package

variable {keys : Keys} {policy : MacPolicy} {label : String} {package secret encrypted : List Char}
  {sealed : List UInt8}

theorem HoldsSealed.unique {secret' : List Char} {sealed' : List UInt8}
    (h : HoldsSealed package secret sealed) (h' : HoldsSealed package secret' sealed') :
    secret = secret' ∧ sealed = sealed' := by
  obtain ⟨encrypted, hsecret, hencrypted, hsealed⟩ := h
  obtain ⟨encrypted', hsecret', hencrypted', hsealed'⟩ := h'
  obtain rfl := Option.some.inj (hsecret.symm.trans hsecret')
  obtain rfl := Option.some.inj (hencrypted.symm.trans hencrypted')
  exact ⟨rfl, Option.some.inj (hsealed.symm.trans hsealed')⟩

theorem HoldsSealed.isSigned_iff (h : HoldsSealed package secret sealed) :
    IsSigned keys package ↔ Signs keys secret sealed := by
  constructor
  · rintro ⟨secret', sealed', h', hsigns⟩
    obtain ⟨rfl, rfl⟩ := h.unique h'
    exact hsigns
  · exact fun hsigns => ⟨secret, sealed, h, hsigns⟩

/-! ## The parts of a package -/

theorem typeOf_cases (label : String) (package : List Char) :
    (∃ type, typeOf label package = .ok type ∧ NamesType package) ∨
      ∃ reason, typeOf label package = .error (.malformed reason) ∧ ¬NamesType package := by
  unfold typeOf
  cases halgorithm : attribute? "Key".toList "Algorithm".toList package with
  | none =>
    refine .inr ⟨_, rfl, ?_⟩
    rintro ⟨_, _, hnone, -⟩
    cases halgorithm.symm.trans hnone
  | some algorithm =>
    dsimp only
    cases htype : (Text.stripPrefix? algorithmPrefix.toList (unescape algorithm)).bind
        fun name => PasswordType.ofName? (String.ofList name) with
    | some type =>
      obtain ⟨name, hname, htype⟩ := Option.bind_eq_some_iff.1 htype
      refine .inl ⟨type, rfl, algorithm, type, halgorithm, ?_⟩
      rw [Text.eq_append_of_stripPrefix? hname, ← PasswordType.ofName?_eq_some_iff.1 htype,
        String.toList_ofList]
    | none =>
      refine .inr ⟨_, rfl, ?_⟩
      rintro ⟨algorithm', type, halgorithm', hnames⟩
      obtain rfl := Option.some.inj (halgorithm.symm.trans halgorithm')
      rw [hnames, Text.stripPrefix?_append, Option.bind_some, String.ofList_toList,
        PasswordType.ofName?_eq_some_iff.2 rfl] at htype
      cases htype

theorem checkedCipher_of_readable
    (hsealed : (element? "CipherValue" encrypted).bind bytes? = some sealed) (keys : Keys)
    (policy : MacPolicy) (label : String) (secret : List Char) :
    ∃ isSigned : Bool, (isSigned = true ↔ Signs keys secret sealed) ∧
      checkedCipher keys policy label secret encrypted =
        if policy ≠ .ignore ∧ !isSigned then .error (.macMismatch label) else .ok sealed := by
  unfold checkedCipher
  rw [hsealed]
  refine ⟨_, ?_, rfl⟩
  unfold Signs
  cases keys.macKey with
  | none => simp
  | some macKey =>
    cases (element? "ValueMAC" secret).bind bytes? with
    | none => simp
    | some mac => simp only [beq_iff_eq, Option.some.injEq, exists_and_left, exists_eq_left']

/-- What checking a sealed seed gives: an error if it cannot be read, a mismatch if the signature
matters and does not fit, else the seed as it is. -/
theorem checkedCipher_cases (keys : Keys) (policy : MacPolicy) (label : String)
    (secret encrypted : List Char) :
    ((element? "CipherValue" encrypted).bind bytes? = none ∧
      checkedCipher keys policy label secret encrypted =
        .error (.malformed (.inPackage label "unreadable cipher value"))) ∨
    ∃ sealed, (element? "CipherValue" encrypted).bind bytes? = some sealed ∧
      ((policy ≠ .ignore ∧ ¬Signs keys secret sealed ∧
          checkedCipher keys policy label secret encrypted = .error (.macMismatch label)) ∨
        ((policy = .ignore ∨ Signs keys secret sealed) ∧
          checkedCipher keys policy label secret encrypted = .ok sealed)) := by
  cases hsealed : (element? "CipherValue" encrypted).bind bytes? with
  | none =>
    refine .inl ⟨rfl, ?_⟩
    unfold checkedCipher
    rw [hsealed]
  | some sealed =>
    obtain ⟨isSigned, hsigned, heq⟩ := checkedCipher_of_readable hsealed keys policy label secret
    refine .inr ⟨sealed, rfl, ?_⟩
    rw [heq, ← hsigned]
    by_cases hpolicy : policy = .ignore
    · exact .inr ⟨.inl hpolicy, if_neg fun h => h.1 hpolicy⟩
    · cases isSigned with
      | true => exact .inr ⟨.inr rfl, if_neg fun h => Bool.false_ne_true h.2⟩
      | false => exact .inl ⟨hpolicy, Bool.false_ne_true, if_pos ⟨hpolicy, rfl⟩⟩

theorem seedOf_of_checkedCipher_error {e : ExchangeError}
    (hencrypted : element? "EncryptedValue" secret = some encrypted)
    (hcipher : checkedCipher keys policy label secret encrypted = .error e) :
    seedOf keys policy label secret = .error e := by
  unfold seedOf
  rw [hencrypted]
  dsimp only
  rw [hcipher]
  rfl

/-- What opening a checked seed gives. -/
theorem seedOf_of_checkedCipher_ok
    (hencrypted : element? "EncryptedValue" secret = some encrypted)
    (hcipher : checkedCipher keys policy label secret encrypted = .ok sealed) :
    seedOf keys policy label secret =
      match keys.key with
      | none => .error .keyRequired
      | some key =>
        match openSealed key sealed with
        | none => .error (.malformed (.inPackage label "cannot decrypt secret"))
        | some seed => .ok seed := by
  unfold seedOf
  rw [hencrypted]
  dsimp only
  rw [hcipher]
  rfl

/-- A sealed seed whose signature fits is read in the same way under every policy. -/
theorem seedOf_eq_ignore
    (h : ∀ sealed, HoldsSealed package secret sealed → Signs keys secret sealed)
    (hsecret : element? "Secret" package = some secret) (policy : MacPolicy) (label : String) :
    seedOf keys policy label secret = seedOf keys .ignore label secret := by
  cases hencrypted : element? "EncryptedValue" secret with
  | none =>
    unfold seedOf
    rw [hencrypted]
  | some encrypted =>
    -- The policy matters for the check only, and the check is passed under both.
    have hcipher : checkedCipher keys policy label secret encrypted =
        checkedCipher keys .ignore label secret encrypted := by
      rcases checkedCipher_cases keys policy label secret encrypted with
        ⟨hnone, heq⟩ | ⟨sealed, hsealed, ⟨-, hsigns, -⟩ | ⟨-, heq⟩⟩
      · rcases checkedCipher_cases keys .ignore label secret encrypted with
          ⟨-, heq'⟩ | ⟨sealed, hsealed, -⟩
        · rw [heq, heq']
        · cases hnone.symm.trans hsealed
      · exact absurd (h sealed ⟨encrypted, hsecret, hencrypted, hsealed⟩) hsigns
      · rcases checkedCipher_cases keys .ignore label secret encrypted with
          ⟨hnone, -⟩ | ⟨sealed', hsealed', ⟨hignore, -⟩ | ⟨-, heq'⟩⟩
        · cases hnone.symm.trans hsealed
        · exact absurd rfl hignore
        · rw [heq, heq', Option.some.inj (hsealed.symm.trans hsealed')]
    unfold seedOf
    rw [hencrypted]
    dsimp only
    rw [hcipher]

theorem seedOf_ignore_ne_macMismatch (keys : Keys) (label serial : String) (secret : List Char) :
    seedOf keys .ignore label secret ≠ .error (.macMismatch serial) := by
  cases hencrypted : element? "EncryptedValue" secret with
  | none =>
    unfold seedOf
    rw [hencrypted]
    dsimp only
    split <;> exact fun h => by cases h
  | some encrypted =>
    rcases checkedCipher_cases keys .ignore label secret encrypted with
      ⟨-, heq⟩ | ⟨sealed, -, ⟨hignore, -⟩ | ⟨-, heq⟩⟩
    · rw [seedOf_of_checkedCipher_error hencrypted heq]
      exact fun h => by cases h
    · exact absurd rfl hignore
    · rw [seedOf_of_checkedCipher_ok hencrypted heq]
      split
      · exact fun h => by cases h
      · split <;> exact fun h => by cases h

/-! ## The whole package -/

/-- Reading a package ends before its secret, or it is reading the seed in the secret. Neither the
keys nor the policy matter otherwise. -/
theorem readPackage_cases (label : String) (package : List Char) :
    ((¬NamesType package ∨ element? "Secret" package = none) ∧
      ∃ reason, ∀ keys policy,
        readPackage keys policy label package = .error (.malformed reason)) ∨
    ∃ secret, ∃ describe : List UInt8 → PackagedToken,
      NamesType package ∧ element? "Secret" package = some secret ∧
      ∀ keys policy, readPackage keys policy label package =
        describe <$> seedOf keys policy label secret := by
  unfold readPackage
  obtain ⟨type, htype, hnames⟩ | ⟨reason, htype, hnames⟩ := typeOf_cases label package
  · rw [htype]
    cases hsecret : element? "Secret" package with
    | none => exact .inl ⟨.inr rfl, _, fun _ _ => rfl⟩
    | some secret =>
      have ok_bind {α β : Type} (a : α) (f : α → Except ExchangeError β) :
          (Except.ok a >>= f) = f a := rfl
      simp only [ok_bind]
      exact .inr ⟨secret, _, hnames, rfl, fun keys policy => bind_pure_comp _ _⟩
  · rw [htype]
    exact .inl ⟨.inl hnames, reason, fun _ _ => rfl⟩

/-- A package that fails is a mismatch if signatures matter. -/
theorem readPackage_of_failsCheck (h : FailsCheck keys package) (hpolicy : policy ≠ .ignore)
    (label : String) : readPackage keys policy label package = .error (.macMismatch label) := by
  obtain ⟨⟨hnames, secret, sealed, hholds⟩, hsigned⟩ := h
  rw [hholds.isSigned_iff] at hsigned
  obtain ⟨encrypted, hsecret, hencrypted, hsealed⟩ := hholds
  rcases readPackage_cases label package with
    ⟨hnot | hnone, -⟩ | ⟨secret', describe, -, hsecret', heq⟩
  · exact absurd hnames hnot
  · cases hnone.symm.trans hsecret
  · obtain rfl := Option.some.inj (hsecret.symm.trans hsecret')
    rcases checkedCipher_cases keys policy label secret encrypted with
      ⟨hnone, -⟩ | ⟨sealed', hsealed', ⟨-, -, hmismatch⟩ | ⟨hfits, -⟩⟩
    · cases hnone.symm.trans hsealed
    · rw [heq, seedOf_of_checkedCipher_error hencrypted hmismatch]
      rfl
    · obtain rfl := Option.some.inj (hsealed.symm.trans hsealed')
      exact absurd (hfits.resolve_left hpolicy) hsigned

/-- A package that does not fail is read in the same way under every policy. -/
theorem readPackage_of_not_failsCheck (h : ¬FailsCheck keys package) (policy : MacPolicy)
    (label : String) :
    readPackage keys policy label package = readPackage keys .ignore label package := by
  rcases readPackage_cases label package with
    ⟨-, reason, heq⟩ | ⟨secret, describe, hnames, hsecret, heq⟩
  · rw [heq, heq]
  · have hsigns : ∀ sealed, HoldsSealed package secret sealed → Signs keys secret sealed := by
      intro sealed hholds
      by_contra hsigns
      exact h ⟨⟨hnames, secret, sealed, hholds⟩, fun hsigned =>
        hsigns (hholds.isSigned_iff.1 hsigned)⟩
    rw [heq, heq, seedOf_eq_ignore hsigns hsecret]

/-- Without regard to signatures nothing is a mismatch. -/
theorem readPackage_ignore_ne_macMismatch (keys : Keys) (label serial : String)
    (package : List Char) :
    readPackage keys .ignore label package ≠ .error (.macMismatch serial) := by
  rcases readPackage_cases label package with ⟨-, reason, heq⟩ | ⟨secret, describe, -, -, heq⟩
  · rw [heq]
    exact fun h => by cases h
  · rw [heq]
    have hseed := seedOf_ignore_ne_macMismatch keys label serial secret
    cases hcases : seedOf keys .ignore label secret with
    | ok seed => exact fun h => by cases h
    | error e =>
      rw [hcases] at hseed
      exact fun h => hseed (congrArg Except.error (Except.error.inj h))

/-- A mismatch is a failed check, and it names the label of the package. -/
theorem readPackage_eq_macMismatch_iff (hpolicy : policy ≠ .ignore) {serial : String} :
    readPackage keys policy label package = .error (.macMismatch serial) ↔
      FailsCheck keys package ∧ label = serial := by
  by_cases h : FailsCheck keys package
  · simp [readPackage_of_failsCheck h hpolicy, h]
  · rw [readPackage_of_not_failsCheck h]
    exact iff_of_false (readPackage_ignore_ne_macMismatch keys label serial package)
      fun hfails => h hfails.1

/-- What was read from an encrypted value had its signature checked. -/
theorem isChecked_of_readPackage {token : PackagedToken}
    (hread : readPackage keys policy label package = .ok token)
    (hencrypted : HoldsEncrypted package) : IsChecked package := by
  obtain ⟨secret, encrypted, hsecret, hencrypted⟩ := hencrypted
  rcases readPackage_cases label package with
    ⟨-, reason, heq⟩ | ⟨secret', describe, hnames, hsecret', heq⟩
  · cases (heq keys policy).symm.trans hread
  · obtain rfl := Option.some.inj (hsecret.symm.trans hsecret')
    refine ⟨hnames, secret, ?_⟩
    rcases checkedCipher_cases keys policy label secret encrypted with
      ⟨-, hcipher⟩ | ⟨sealed, hsealed, -⟩
    · rw [heq, seedOf_of_checkedCipher_error hencrypted hcipher] at hread
      cases hread
    · exact ⟨sealed, encrypted, hsecret, hencrypted, hsealed⟩

/-- A token read from an encrypted value is signed if signatures matter. -/
theorem isSigned_of_readPackage (hpolicy : policy ≠ .ignore) {token : PackagedToken}
    (hread : readPackage keys policy label package = .ok token)
    (hencrypted : HoldsEncrypted package) : IsSigned keys package := by
  by_contra hsigned
  have hfails : FailsCheck keys package := ⟨isChecked_of_readPackage hread hencrypted, hsigned⟩
  cases (readPackage_of_failsCheck hfails hpolicy label).symm.trans hread

end KeyContainer

end TokenInventory
