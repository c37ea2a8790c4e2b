import TokenInventory.Proofs.KeyContainer.Container

/-!
# Reading what a writer wrote

A package that a writer wrote is about its token, sealed and signed with the writer's keys
(`Writer.exists_packaged`), and the head of the container holds the other key sealed
(`Writer.exists_sealed`). So reading a container with a package in it tells which texts of a token
come through (`read_package`): all that were trimmed do, whatever their characters, apart from the
time step, which keeps its entities, and from a serial that ends in the name of the attribute with
the algorithm, which makes the whole package be left out.
-/

namespace TokenInventory.KeyContainer

/-- A package that was written is about its token, sealed and signed with the writer's keys. -/
theorem Writer.exists_packaged {writer writer' : Writer} {token : Token} {owner : Option User}
    {entropy entropy' : Entropy} {text : String}
    (h : writer.package token owner entropy = .ok (text, writer', entropy')) :
    ∃ p : Packaged, p.token = token ∧ p.owner = owner ∧
      p.IsAuthentic writer.key writer.macKey ∧ text = p.texts.text ∧
      writer' = { writer with exported := writer.exported + 1 } := by
  unfold Writer.package exportedType at h
  cases htype : PasswordType.ofToken? token with
  | none =>
    rw [htype] at h
    cases h
  | some type =>
    cases hseed : Seed.bytes token with
    | error e =>
      rw [htype, hseed] at h
      cases h
    | ok seed =>
      rw [htype, hseed] at h
      obtain ⟨htext, hrest⟩ := Prod.mk.inj (Except.ok.inj h)
      obtain ⟨nonce, hnonce, hsealed⟩ := exists_sealValue writer.key seed entropy
      let sealed := (sealValue writer.key seed entropy).1
      have hplain := isPlain_base64 (Sha256.hmac writer.macKey.toList sealed)
      refine ⟨⟨token, type, owner, seed, sealed, _, fun hlt => (hplain _ hlt).1 rfl⟩, rfl, rfl,
        ⟨⟨htype, hseed, ?_⟩, trim_base64 _⟩, htext.symm, (Prod.mk.inj hrest).1.symm⟩
      rw [← openSealed_sealWith writer.key hnonce, ← hsealed]

/-- The head of a container holds the key that signs, sealed under the writer's key. -/
theorem Writer.exists_sealed (writer : Writer) (entropy : Entropy) :
    ∃ id sealed, openSealed writer.key sealed = some writer.macKey.toList ∧
      (writer.head entropy).1 = headText (identifier id) (base64Text sealed) := by
  obtain ⟨nonce, hnonce, hsealed⟩ := exists_sealValue writer.key writer.macKey.toList entropy
  let drawn := sealValue writer.key writer.macKey.toList entropy
  refine ⟨(drawn.2.draw 16).1, drawn.1, ?_, rfl⟩
  rw [hsealed, openSealed_sealWith writer.key hnonce]

/-! ## A container with any packages -/

/-- Whether a text is a key package that a writer may write of a token. -/
def Writer.Writes (writer : Writer) (token : Token) (text : String) : Prop :=
  ∃ owner entropy exported rest,
    ({ writer with exported } : Writer).package token owner entropy = .ok (text, rest)

/-- A container with the given key packages in it. -/
def Writer.container (writer : Writer) (entropy : Entropy) (texts : List String) : String :=
  (writer.head entropy).1 ++ String.join texts ++ footText

/-- The texts of key packages are those of packages about their tokens. -/
theorem Writer.exists_packages {writer : Writer} {tokens : List Token} {texts : List String}
    (h : List.Forall₂ writer.Writes tokens texts) : ∃ packages : List Packaged,
      packages.map Packaged.token = tokens ∧
      packages.map (fun p => p.texts.text) = texts ∧
      ∀ p ∈ packages, p.IsAuthentic writer.key writer.macKey := by
  induction h with
  | nil => exact ⟨[], rfl, rfl, List.forall_mem_nil _⟩
  | cons hwrites _ ih =>
    obtain ⟨packages, rfl, rfl, hauthentic⟩ := ih
    obtain ⟨owner, entropy, exported, ⟨writer', entropy'⟩, hpackage⟩ := hwrites
    obtain ⟨p, rfl, -, hp, rfl, -⟩ := exists_packaged hpackage
    exact ⟨p :: packages, rfl, rfl, List.forall_mem_cons.2 ⟨hp, hauthentic⟩⟩

/-- The package in one place of a container, and those before and after it. -/
theorem Writer.exists_packages_of_getElem? {writer : Writer} {tokens : List Token}
    {texts : List String} (h : List.Forall₂ writer.Writes tokens texts) {i : Nat} {token : Token}
    (htoken : tokens[i]? = some token) {text : String} (htext : texts[i]? = some text) :
    ∃ (earlier later : List Packaged) (p : Packaged),
      earlier.length = i ∧ p.token = token ∧ p.texts.text = text ∧
      (earlier ++ p :: later).map Packaged.token = tokens ∧
      (earlier ++ p :: later).map (fun q => q.texts.text) = texts ∧
      ∀ q ∈ earlier ++ p :: later, q.IsAuthentic writer.key writer.macKey := by
  obtain ⟨packages, rfl, rfl, hauthentic⟩ := exists_packages h
  rw [List.getElem?_map, Option.map_eq_some_iff] at htoken htext
  obtain ⟨p, hp, rfl⟩ := htoken
  obtain ⟨q, hq, rfl⟩ := htext
  obtain rfl := Option.some.inj (hp.symm.trans hq)
  obtain ⟨hi, rfl⟩ := List.getElem?_eq_some_iff.1 hp
  have hsplit : packages = packages.take i ++ packages[i] :: packages.drop (i + 1) := by simp
  refine ⟨packages.take i, packages.drop (i + 1), packages[i], ?_, rfl, rfl, ?_⟩
  · rw [List.length_take, Nat.min_eq_left hi.le]
  · rw [← hsplit]
    exact ⟨rfl, rfl, hauthentic⟩

/-- The marks of a container with the packages of the given texts. -/
theorem Writer.exists_container (writer : Writer) (entropy : Entropy) :
    ∃ id sealed, openSealed writer.key sealed = some writer.macKey.toList ∧
      ∀ packages : List Packaged,
        (writer.container entropy (packages.map fun p => p.texts.text)).toList =
          render (containerMarks id sealed packages) := by
  obtain ⟨id, sealed, hopen, hhead⟩ := writer.exists_sealed entropy
  refine ⟨id, sealed, hopen, fun packages => ?_⟩
  have hfoot : footText.toList = render footMarks := rfl
  have hpackages : (String.join (packages.map fun p => p.texts.text)).toList =
      render (packagesMarks packages) := by
    rw [String.toList_join, List.flatMap_map, packagesMarks, render, List.flatMap_assoc]
    exact congrArg (packages.flatMap ·) (funext toList_text)
  rw [container, String.toList_append, String.toList_append, hhead, toList_headText, hpackages,
    hfoot, base64Text, String.toList_ofList, containerMarks, render_append, render_append,
    List.append_assoc]

/-! ## A container with one package -/

variable {token : Token} {type : PasswordType} {seed : List UInt8}

/-- A token with one of the two types and a seed in hexadecimal digits can be written. -/
theorem Writer.exists_package (writer : Writer) (htype : PasswordType.ofToken? token = some type)
    (hseed : Seed.bytes token = .ok seed) (owner : Option User) (entropy : Entropy) :
    ∃ text rest, writer.package token owner entropy = .ok (text, rest) := by
  unfold Writer.package exportedType
  rw [htype, hseed]
  exact ⟨_, _, rfl⟩

/-- What reading gives if the container has one package in it. -/
theorem Writer.exists_read (writer : Writer) (htype : PasswordType.ofToken? token = some type)
    (hseed : Seed.bytes token = .ok seed) (htrimmed : token.IsTrimmed) (owner : Option User)
    (entropy entropy' : Entropy) (policy : MacPolicy) :
    ∃ text rest, writer.package token owner entropy' = .ok (text, rest) ∧
      ∃ p : Packaged, p.token = token ∧ p.type = type ∧ p.seed = seed ∧
        p.IsAuthentic writer.key writer.macKey ∧
        read ((writer.head entropy).1 ++ text ++ footText).toList (some writer.key.toHex) policy =
          importOf policy [(token.serial,
            readPackage ⟨some writer.key, some writer.macKey.toList⟩ policy token.serial
              (render (packageContent p)))] := by
  obtain ⟨text, ⟨writer', entropy''⟩, hpackage⟩ :=
    writer.exists_package htype hseed owner entropy'
  obtain ⟨p, rfl, -, hsealed, htext, -⟩ := writer.exists_packaged hpackage
  obtain ⟨id, sealed, hopen, hhead⟩ := writer.exists_sealed entropy
  have hcontainer : ((writer.head entropy).1 ++ text ++ footText).toList =
      render (containerMarks id sealed [p]) := by
    have hfoot : footText.toList = render footMarks := rfl
    rw [hhead, htext, String.toList_append, String.toList_append, toList_headText, toList_text,
      hfoot, base64Text, String.toList_ofList, containerMarks, packagesMarks,
      List.flatMap_singleton, render_append, render_append, List.append_assoc]
  refine ⟨text, _, hpackage, p, rfl, ?_, ?_, hsealed, ?_⟩
  · exact Option.some.inj (hsealed.ofToken?_eq.symm.trans htype)
  · exact Except.ok.inj (hsealed.bytes_eq.symm.trans hseed)
  · unfold read
    rw [hcontainer, resultsOf_render (List.cons_ne_nil _ _) (List.forall_mem_singleton.2 htrimmed)
      hopen]
    rfl

/-- The texts of a token without blanks at their ends do not change how its key package is read,
whatever their characters, with two exceptions. The time step is not what it was if some of its
characters are written with an entity. And if the serial ends in the name of the attribute with the
algorithm and an equals sign, the package is left out. -/
theorem read_package (writer : Writer) (htype : PasswordType.ofToken? token = some type)
    (hseed : Seed.bytes token = .ok seed) (htrimmed : token.IsTrimmed) (owner : Option User)
    (entropy entropy' : Entropy) (policy : MacPolicy) :
    ∃ text rest, writer.package token owner entropy' = .ok (text, rest) ∧
      let content :=
        read ((writer.head entropy).1 ++ text ++ footText).toList (some writer.key.toHex) policy
      (EndsIn "Algorithm".toList token.serial.toList → content = .ok ⟨[], [token.serial]⟩) ∧
      (¬EndsIn "Algorithm".toList token.serial.toList →
        content = .ok
          ⟨[{ serial := token.serial
              type
              seed := String.ofList (Hex.encode seed)
              passwordLength := token.passwordLength
              counter := if type = .counterBased then token.counter else 0
              timeStep := if type = .timeBased then some (escaped token.timeStep) else none
              description := token.description }], []⟩) := by
  obtain ⟨text, rest, hpackage, p, rfl, rfl, rfl, hsealed, hread⟩ :=
    writer.exists_read htype hseed htrimmed owner entropy entropy' policy
  refine ⟨text, rest, hpackage, fun hserial => ?_, fun hserial => ?_⟩
  · rw [hread, readPackage_render_of_endsIn hserial]
    cases policy <;> rfl
  · rw [hread, readPackage_render htrimmed hserial hsealed]
    unfold Packaged.read Packaged.described
    cases policy <;> cases p.type <;> rfl

/-- A time step with an ampersand comes back with the entity that stands for it. -/
theorem read_package_timeStep :
    let token : Token :=
      { serial := "T1", tokenType := "totp", seed := "00"
        info := SortedMap.empty.insert Token.timeStepKey "a&b" }
    let entropy : Entropy := ⟨fun _ => 0, 0⟩
    let writer := (Writer.random entropy).1
    ∃ text rest, writer.package token none entropy = .ok (text, rest) ∧
      read ((writer.head entropy).1 ++ text ++ footText).toList (some writer.key.toHex) .refuse =
        .ok ⟨[{ serial := "T1", type := .timeBased, seed := "00", passwordLength := 6, counter := 0
                timeStep := some "a&amp;b", description := "" }], []⟩ := by
  intro token entropy writer
  have htrimmed : token.IsTrimmed := ⟨by decide, by decide, fun _ => by decide⟩
  have hserial : ¬EndsIn "Algorithm".toList token.serial.toList := fun ⟨before, heq, _⟩ => by
    have hmem : '=' ∈ token.serial.toList := heq ▸ by simp
    revert hmem
    decide
  have htype : PasswordType.ofToken? token = some .timeBased := by decide +kernel
  have hseed : Seed.bytes token = .ok [0] := by decide +kernel
  obtain ⟨text, rest, hpackage, -, hread⟩ :=
    read_package writer htype hseed htrimmed none entropy entropy .refuse
  refine ⟨text, rest, hpackage, (hread hserial).trans ?_⟩
  exact congrArg (fun t => Except.ok (Import.mk [t] [])) (by decide +kernel)

/-- A token whose serial is the name of the attribute and an equals sign cannot be read back. -/
theorem read_package_leftOut :
    let token : Token := { serial := "Algorithm=", tokenType := "hotp", seed := "00" }
    let entropy : Entropy := ⟨fun _ => 0, 0⟩
    let writer := (Writer.random entropy).1
    ∃ text rest, writer.package token none entropy = .ok (text, rest) ∧
      read ((writer.head entropy).1 ++ text ++ footText).toList (some writer.key.toHex) .refuse =
        .ok ⟨[], ["Algorithm="]⟩ := by
  intro token entropy writer
  have htrimmed : token.IsTrimmed := ⟨by decide, by decide, fun _ => by decide⟩
  have hserial : EndsIn "Algorithm".toList token.serial.toList :=
    ⟨[], by decide, by simp⟩
  have htype : PasswordType.ofToken? token = some .counterBased := by decide +kernel
  have hseed : Seed.bytes token = .ok [0] := by decide +kernel
  obtain ⟨text, rest, hpackage, p, htoken, -, -, -, hread⟩ :=
    writer.exists_read htype hseed htrimmed none entropy entropy .refuse
  refine ⟨text, rest, hpackage, hread.trans ?_⟩
  rw [readPackage_render_of_endsIn (by rw [htoken]; exact hserial)]
  rfl

end TokenInventory.KeyContainer
