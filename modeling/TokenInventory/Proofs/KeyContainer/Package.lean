import TokenInventory.KeyContainer.Reader
import TokenInventory.Proofs.Cipher.Sealing
import TokenInventory.Proofs.KeyContainer.Attribute
import TokenInventory.Proofs.KeyContainer.Search
import TokenInventory.Proofs.KeyContainer.Soundness

/-!
# Reading a written key package

What a package says about a token without blanks at the ends of its texts is found again in the
package's marks, the seed under any policy (`readPackage_render`). There are two exceptions: the
entities of the time step are not put back, and the algorithm is not found if the serial ends in the
name of its attribute (`readPackage_render_of_endsIn`). Both do not concern portable tokens
(`Packaged.read_eq_described`).
-/

namespace TokenInventory

/-- Whether nothing that a key package says about a token gets lost between tags and quotes. -/
structure Token.IsPortable (token : Token) : Prop where
  trim_serial : Text.trim token.serial.toList = token.serial.toList
  equals_not_mem : '=' ∉ token.serial.toList
  trim_description : Text.trim token.description.toList = token.description.toList
  trim_timeStep : PasswordType.ofToken? token = some .timeBased →
    Text.trim token.timeStep.toList = token.timeStep.toList
  not_isSpecial_timeStep : PasswordType.ofToken? token = some .timeBased →
    ∀ c ∈ token.timeStep.toList, KeyContainer.isSpecial c = false

/-- Whether none of the texts that a key package writes begins or ends with a blank. -/
structure Token.IsTrimmed (token : Token) : Prop where
  trim_serial : Text.trim token.serial.toList = token.serial.toList
  trim_description : Text.trim token.description.toList = token.description.toList
  trim_timeStep : PasswordType.ofToken? token = some .timeBased →
    Text.trim token.timeStep.toList = token.timeStep.toList

theorem Token.IsPortable.isTrimmed {token : Token} (h : token.IsPortable) : token.IsTrimmed :=
  ⟨h.trim_serial, h.trim_description, h.trim_timeStep⟩

theorem Token.IsPortable.not_endsIn {token : Token} (h : token.IsPortable) :
    ¬KeyContainer.EndsIn "Algorithm".toList token.serial.toList := fun ⟨_, heq, _⟩ =>
  h.equals_not_mem (heq ▸ by simp)

namespace KeyContainer

/-- Whether a package is about the type and the seed of its token, the seed sealed under a key. -/
structure Packaged.IsSealed (key : Key) (p : Packaged) : Prop where
  ofToken?_eq : PasswordType.ofToken? p.token = some p.type
  bytes_eq : Seed.bytes p.token = .ok p.seed
  openSealed_eq : openSealed key p.sealed = some p.seed

/-- Whether the text in place of a package's signature is the signature of the sealed seed, blanks
at the ends aside. -/
def Packaged.IsSigned (macKey : Key) (p : Packaged) : Prop :=
  Text.trim p.mac = Base64.encode (Sha256.hmac macKey.toList p.sealed)

/-- Whether a package is about its token and its signature is right. -/
structure Packaged.IsAuthentic (key macKey : Key) (p : Packaged) : Prop extends p.IsSealed key where
  isSigned : p.IsSigned macKey

/-- What a key package says about its token. -/
def Packaged.described (p : Packaged) : PackagedToken where
  serial := p.token.serial
  type := p.type
  seed := String.ofList (Hex.encode p.seed)
  passwordLength := p.token.passwordLength
  counter :=
    match p.type with
    | .counterBased => p.token.counter
    | .timeBased => 0
  timeStep :=
    match p.type with
    | .counterBased => none
    | .timeBased => some p.token.timeStep
  description := p.token.description

/-- What is read of a key package. The time step stays as it is written. -/
def Packaged.read (p : Packaged) : PackagedToken :=
  { p.described with timeStep := p.described.timeStep.map escaped }

/-- What is read of a portable token is all that its package says. -/
theorem Packaged.read_eq_described {p : Packaged} (h : p.token.IsPortable)
    (htype : PasswordType.ofToken? p.token = some p.type) : p.read = p.described := by
  have htimeStep : p.described.timeStep.map escaped = p.described.timeStep := by
    unfold Packaged.described
    cases hp : p.type with
    | counterBased => rfl
    | timeBased =>
      rw [hp] at htype
      have hescape := escape_eq_self (h.not_isSpecial_timeStep htype)
      exact congrArg some (by rw [escaped, hescape, String.ofList_toList])
  rw [Packaged.read, htimeStep]

/-- The marks within a key package. -/
def packageContent (p : Packaged) : List Mark :=
  lines 1 (packageChildren p)

theorem isSound_packageContent (p : Packaged) : ∀ m ∈ packageContent p, m.IsSound :=
  isSound_lines 1 (isSound_packageChildren p)

/-! ## Values -/

theorem trim_base64 (bytes : List UInt8) : Text.trim (Base64.encode bytes) = Base64.encode bytes :=
  Text.trim_of_forall_not_blank (Base64.forall_mem_encode (by decide) (by decide) bytes)

/-- The bytes in an element. -/
theorem bytes?_element?_leaf (tag : Tag) {marks : List Mark} {bytes : List UInt8}
    (hmarks : ∀ m ∈ marks, m.IsSound) (h : Mark.Holds tag [.text (Base64.encode bytes)] marks) :
    (element? tag.name (render marks)).bind bytes? = some bytes := by
  rw [element?_leaf tag hmarks h, Option.bind_some, bytes?, trim_base64, trim_base64,
    Base64.decode_encode]

theorem not_isSpecial_of_mem_ofInt64 (x : Int64) :
    ∀ c ∈ (Text.ofInt64 x).toList, isSpecial c = false := by
  refine Text.forall_mem_ofInt64 (fun c hdigit => ?_) (by decide) x
  cases hc : isSpecial c with
  | false => rfl
  | true => rcases eq_of_isSpecial hc with rfl | rfl | rfl | rfl | rfl <;> cases hdigit

theorem trim_ofInt64 (x : Int64) :
    Text.trim (Text.ofInt64 x).toList = (Text.ofInt64 x).toList := by
  refine Text.trim_of_forall_not_blank (Text.forall_mem_ofInt64 (fun c hdigit => ?_) (by decide) x)
  obtain ⟨hle, hge⟩ := Char.isDigit_iff_toNat.1 hdigit
  have hle : 48 ≤ c.toNat := hle
  have hge : c.toNat ≤ 57 := hge
  simp [Text.isBlank]
  omega

theorem readInt64_ofInt64 (x : Int64) : Text.readInt64 (Text.ofInt64 x).toList = some x := by
  rw [Text.ofInt64, String.toList_ofList, Text.readInt64_writeInt]

theorem unescape_ofInt64 (x : Int64) :
    unescape (Text.ofInt64 x).toList = (Text.ofInt64 x).toList := by
  conv_lhs => rw [← escape_eq_self (not_isSpecial_of_mem_ofInt64 x)]
  exact unescape_escape _

/-! ## Attributes -/

theorem attributeInTag?_space {c : Char} (hc : c ≠ ' ') (label : List Char) (inWord : Bool)
    (s : List Char) :
    attributeInTag? (c :: label) inWord (' ' :: s) = attributeInTag? (c :: label) false s := by
  rw [attributeInTag?, List.cons_append, Text.stripPrefix?, if_neg hc, Option.bind_none, ite_self]
  rfl

/-- An attribute at the start of a tag is found. -/
theorem attributeInTag?_attributeText {label : String} {c : Char} {l : List Char}
    (hlabel : label.toList = c :: l) (hc : c ≠ ' ') {v : List Char} (hv : '"' ∉ v) (inWord : Bool)
    (s : List Char) :
    attributeInTag? label.toList inWord (attributeText label v ++ s) = some v := by
  have := attributeInTag?_self c l hv s
  simp only [attributeText, List.cons_append, List.append_assoc, hlabel] at this ⊢
  rw [attributeInTag?_space hc]
  exact this

/-- A text ends in the name of an attribute exactly if it does so as it is written. -/
theorem endsIn_escape_iff {label s : List Char} (hspecial : ∀ c ∈ label, isSpecial c = false)
    (hlabel : ';' ∉ label) : EndsIn label (escape s) ↔ EndsIn label s := by
  -- An entity ends in a semicolon, and neither that nor what it stands for is part of a word.
  have hword (s : List Char) : (∀ c ∈ (escape s).getLast?, CharClass.isWord c = false) ↔
      ∀ c ∈ s.getLast?, CharClass.isWord c = false := by
    rcases List.eq_nil_or_concat s with rfl | ⟨s, c, rfl⟩
    · rfl
    · rw [List.concat_eq_append, escape_concat]
      rcases escapeChar_cases c with ⟨-, hc⟩ | ⟨hc, t, hd⟩
      · rw [hc, List.getLast?_concat, List.getLast?_concat]
      · rw [hd, ← List.append_assoc, List.getLast?_concat, List.getLast?_concat]
        have hnot : CharClass.isWord c = false := by
          rcases eq_of_isSpecial hc with rfl | rfl | rfl | rfl | rfl <;> decide
        exact iff_of_true (fun d hd => by cases hd; decide) fun d hd => by cases hd; exact hnot
  constructor
  · rintro ⟨before, heq, hbefore⟩
    obtain ⟨s', rfl, rfl⟩ := exists_of_escape_eq_append heq (by simpa using hlabel)
    exact ⟨s', rfl, (hword s').1 hbefore⟩
  · rintro ⟨before, rfl, hbefore⟩
    refine ⟨escape before, ?_, (hword before).2 hbefore⟩
    have hend : escape (label ++ ['=']) = label ++ ['='] :=
      escape_eq_self (List.forall_mem_append.2 ⟨hspecial, by simp [isSpecial]⟩)
    rw [escape, List.flatMap_append, ← escape, ← escape, hend]

theorem quote_not_mem_escape (s : List Char) : '"' ∉ escape s := fun h =>
  (not_special_of_mem_escape _ h).2.2 rfl

theorem gt_not_mem_escape (s : List Char) : '>' ∉ escape s := fun h =>
  (not_special_of_mem_escape _ h).2.1 rfl

theorem endsIn_algorithm_iff {s : List Char} :
    EndsIn "Algorithm".toList (escape s) ↔ EndsIn "Algorithm".toList s :=
  endsIn_escape_iff (by simp [isSpecial]) (by decide)

theorem attributeInTag?_id_start (v rest : List Char) :
    attributeInTag? "Algorithm".toList true (attributeText "Id" v ++ rest) =
      attributeInTag? "Algorithm".toList false (v ++ '"' :: rest) := by
  simp only [attributeText, List.cons_append, List.append_assoc]
  rfl

/-- The identifier of a key is passed over in the search for the algorithm. -/
theorem attributeInTag?_id {s : List Char} (h : ¬EndsIn "Algorithm".toList s) (rest : List Char) :
    attributeInTag? "Algorithm".toList true (attributeText "Id" (escape s) ++ rest) =
      attributeInTag? "Algorithm".toList false rest := by
  rw [attributeInTag?_id_start, attributeInTag?_value (by decide) (gt_not_mem_escape s)
    (quote_not_mem_escape s) fun before heq => ?_]
  rw [← Bool.not_eq_false, isInWord_false_iff]
  exact fun hword => h (endsIn_algorithm_iff.1 ⟨before, heq, hword⟩)

/-- What follows the identifier is taken for the algorithm if the identifier ends in its name. -/
theorem attributeInTag?_id_of_endsIn {s : List Char} (h : EndsIn "Algorithm".toList s)
    {value : List Char} (hvalue : '"' ∉ value) (rest : List Char) :
    attributeInTag? "Algorithm".toList true
      (attributeText "Id" (escape s) ++ (value ++ '"' :: rest)) = some value := by
  obtain ⟨before, heq, hword⟩ := endsIn_algorithm_iff.2 h
  have hgt := gt_not_mem_escape s
  have hquote := quote_not_mem_escape s
  rw [attributeInTag?_id_start]
  rw [heq] at hgt hquote ⊢
  exact attributeInTag?_of_endsIn (by decide) (by decide) hgt hquote hvalue
    (isInWord_false_iff.2 hword) rest

/-! ## The parts of a package -/

variable {key macKey : Key} {policy : MacPolicy} {p : Packaged}

theorem labelOf_render (h : p.token.IsTrimmed) (position : Nat) :
    labelOf position (render (packageContent p)) = p.token.serial := by
  have hholds : Mark.Holds .serialNo [.text (escape p.token.serial.toList)]
      (packageContent p) :=
    .lines (.block (.lines (Mark.holds_leaf _ _) [_] [] rfl 2) (by decide)) [] [_] rfl 1
  have hserial : element? "SerialNo" (render (packageContent p)) =
      some (Text.trim (escape p.token.serial.toList)) :=
    element?_leaf .serialNo (isSound_packageContent p) hholds
  rw [labelOf, hserial, trim_escape h.trim_serial]
  simp only [Option.orElse_eq_orElse, Option.orElse_some, Option.map_some, unescape_escape,
    String.ofList_toList]

theorem typeOf_render (h : ¬EndsIn "Algorithm".toList p.token.serial.toList) (label : String) :
    typeOf label (render (packageContent p)) = .ok p.type := by
  have hname : '"' ∉ (algorithmPrefix ++ p.type.name).toList := by cases p.type <;> decide
  have halgorithm : attribute? "Key".toList "Algorithm".toList (render (packageContent p)) =
      some (algorithmPrefix ++ p.type.name).toList := by
    refine attribute?_render .key (isSound_packageContent p) rfl ?_
    rw [List.append_assoc, attributeInTag?_id h]
    exact attributeInTag?_attributeText rfl (by decide) hname _ _
  have htype : unescape (algorithmPrefix ++ p.type.name).toList =
      algorithmPrefix.toList ++ p.type.name.toList := by
    cases p.type <;> decide
  rw [typeOf, halgorithm]
  simp only [htype, Text.stripPrefix?_append, Option.bind_some, String.ofList_toList]
  cases p.type <;> rfl

/-- The algorithm is not found in its place if the serial ends in the name of its attribute. -/
theorem typeOf_render_of_endsIn (h : EndsIn "Algorithm".toList p.token.serial.toList)
    (label : String) : typeOf label (render (packageContent p)) =
      .error (.malformed (.inPackage label "unsupported algorithm")) := by
  have halgorithm : attribute? "Key".toList "Algorithm".toList (render (packageContent p)) =
      some " Algorithm=".toList := by
    refine attribute?_render .key (isSound_packageContent p) rfl ?_
    have hrest : attributeText "Algorithm" (algorithmPrefix ++ p.type.name).toList =
        " Algorithm=".toList ++ '"' :: ((algorithmPrefix ++ p.type.name).toList ++ ['"']) := rfl
    rw [hrest]
    simp only [List.append_assoc, List.cons_append]
    exact attributeInTag?_id_of_endsIn h (by decide) _
  rw [typeOf, halgorithm]
  rfl

theorem passwordLength_render :
    (attribute? "ResponseFormat".toList "Length".toList
      (render (packageContent p))).bind (fun s => Text.readInt64 (unescape s)) =
      some p.token.passwordLength := by
  have hquote : '"' ∉ (Text.ofInt64 p.token.passwordLength).toList := fun hmem => by
    cases not_isSpecial_of_mem_ofInt64 _ _ hmem
  have hlength : attribute? "ResponseFormat".toList "Length".toList
      (render (packageContent p)) = some (Text.ofInt64 p.token.passwordLength).toList := by
    refine attribute?_render .responseFormat (isSound_packageContent p) rfl ?_
    rw [List.append_assoc]
    exact attributeInTag?_attributeText rfl (by decide) hquote _ _
  rw [hlength, Option.bind_some, unescape_ofInt64, readInt64_ofInt64]

/-- The marks within the secret of a package, blanks at the ends aside. -/
def secretMarks (p : Packaged) : List Mark :=
  block 5 .encryptedValue [] (cipherChildren 6 (Base64.encode p.sealed)) ++
    ([lineBreak 5] ++ leaf .valueMac p.mac)

/-- The marks within an encrypted value, blanks at the ends aside. -/
def cipherMarks (depth : Nat) (bytes : List UInt8) : List Mark :=
  .opening .encryptionMethod (attributeText "Algorithm" cipherName.toList ++ ['/']) ::
    ([lineBreak depth] ++ block depth .cipherData [] [leaf .cipherValue (Base64.encode bytes)])

theorem lines_secretChildren (p : Packaged) :
    lines 4 (secretChildren p) = lineBreak 5 :: (secretMarks p ++ [lineBreak 4]) :=
  rfl

theorem isSound_secretMarks (p : Packaged) : ∀ m ∈ secretMarks p, m.IsSound := fun m hm => by
  refine isSound_lines 4 (isSound_secretChildren p) m ?_
  rw [lines_secretChildren]
  exact List.mem_cons_of_mem _ (List.mem_append_left _ hm)

theorem element?_secret : element? "Secret" (render (packageContent p)) =
    some (render (secretMarks p)) := by
  have hholds : Mark.Holds .secret (lines 4 (secretChildren p))
      (packageContent p) := by
    refine .lines (.block ?_ (by decide)) [_] [] rfl 1
    refine .lines (.block ?_ (by decide)) [_, _] _ rfl 2
    exact .lines (Mark.holds_self rfl) [] [_] rfl 3
  have hsecret : element? "Secret" (render (packageContent p)) =
      some (Text.trim (render (lines 4 (secretChildren p)))) :=
    element?_of_holds .secret (isSound_packageContent p) hholds
  have hfirst : (secretMarks p).head? = some (.opening .encryptedValue []) := rfl
  have hlast : (secretMarks p).getLast? = some (.closing .valueMac) := rfl
  rw [hsecret, trim_render_lineBreaks (lines_secretChildren p) hfirst hlast]

theorem lines_cipherChildren (depth : Nat) (bytes : List UInt8) :
    lines depth (cipherChildren (depth + 1) (Base64.encode bytes)) =
      lineBreak (depth + 1) :: (cipherMarks (depth + 1) bytes ++ [lineBreak depth]) := by
  simp only [lines, cipherChildren, cipherMarks, List.flatMap_cons, List.flatMap_nil,
    List.append_nil, List.cons_append, List.nil_append]

theorem isSound_cipherMarks (depth : Nat) (bytes : List UInt8) :
    ∀ m ∈ cipherMarks (depth + 1) bytes, m.IsSound := fun m hm => by
  refine isSound_lines depth (isSound_cipherChildren (depth + 1) bytes) m ?_
  rw [lines_cipherChildren]
  exact List.mem_cons_of_mem _ (List.mem_append_left _ hm)

/-- The bytes of an encrypted value, whatever element holds them. -/
theorem cipherValue_render (tag : Tag) {depth : Nat} {marks : List Mark} {bytes : List UInt8}
    (hmarks : ∀ m ∈ marks, m.IsSound)
    (h : Mark.Holds tag (lines depth (cipherChildren (depth + 1) (Base64.encode bytes))) marks) :
    ∃ encrypted, element? tag.name (render marks) = some encrypted ∧
      (element? "CipherValue" encrypted).bind bytes? = some bytes := by
  have hfirst : (cipherMarks (depth + 1) bytes).head? =
    some (.opening .encryptionMethod (attributeText "Algorithm" cipherName.toList ++ ['/'])) := rfl
  have hlast : (cipherMarks (depth + 1) bytes).getLast? = some (.closing .cipherData) := rfl
  have hholds : Mark.Holds .cipherValue [.text (Base64.encode bytes)]
      (cipherMarks (depth + 1) bytes) := by
    refine .prepend (.prepend (.block ?_ (by decide)) [_] rfl) [_] rfl
    exact .lines (Mark.holds_leaf _ _) [] [] rfl _
  refine ⟨render (cipherMarks (depth + 1) bytes), ?_, ?_⟩
  · rw [element?_of_holds tag hmarks h,
      trim_render_lineBreaks (lines_cipherChildren depth bytes) hfirst hlast]
  · exact bytes?_element?_leaf .cipherValue (isSound_cipherMarks depth bytes) hholds

/-- The sealed seed in the secret of a package. -/
theorem sealed_render (p : Packaged) :
    ∃ encrypted, element? "EncryptedValue" (render (secretMarks p)) = some encrypted ∧
      (element? "CipherValue" encrypted).bind bytes? = some p.sealed :=
  cipherValue_render .encryptedValue (isSound_secretMarks p) ((Mark.holds_self rfl).append _)

/-- The bytes that are read in place of the signature are those written there. -/
theorem valueMac_render_eq_some_iff {bytes : List UInt8} :
    (element? "ValueMAC" (render (secretMarks p))).bind bytes? = some bytes ↔
      Text.trim p.mac = Base64.encode bytes := by
  have hmac : element? "ValueMAC" (render (secretMarks p)) = some (Text.trim p.mac) :=
    element?_leaf .valueMac (isSound_secretMarks p)
      (((Mark.holds_leaf _ _).prepend [_] rfl).prepend _ rfl)
  rw [hmac, Option.bind_some, bytes?, Text.trim_trim, Base64.decode_eq_some_iff]

/-- The seed of a package is found if its signature is right or does not matter. -/
theorem seedOf_render (h : p.IsSealed key) (hpasses : policy = .ignore ∨ p.IsSigned macKey)
    (label : String) :
    seedOf ⟨some key, some macKey.toList⟩ policy label (render (secretMarks p)) = .ok p.seed := by
  obtain ⟨encrypted, hencrypted, hcipher⟩ := sealed_render p
  have hchecked : checkedCipher ⟨some key, some macKey.toList⟩ policy label
      (render (secretMarks p)) encrypted = .ok p.sealed := by
    unfold checkedCipher
    rw [hcipher]
    rcases hpasses with rfl | hsigned
    · exact if_neg fun hchecks => hchecks.1 rfl
    · rw [valueMac_render_eq_some_iff.2 hsigned]
      simp
  unfold seedOf
  rw [hencrypted]
  dsimp only
  rw [hchecked]
  dsimp only [bind, Except.bind]
  rw [h.openSealed_eq]
  rfl

/-! ## What changes from one password to the next -/

/-- The value of an element with a plain value in it. -/
theorem plainValue_render (tag : Tag) {marks : List Mark} {value : List Char}
    (hmarks : ∀ m ∈ marks, m.IsSound) (hvalue : IsPlain value) (htrim : Text.trim value = value)
    (h : Mark.Holds tag (leaf .plainValue value) marks) :
    (element? tag.name (render marks)).bind (element? "PlainValue") = some value := by
  have hfirst : (leaf .plainValue value).head? = some (.opening .plainValue []) := rfl
  have hlast : (leaf .plainValue value).getLast? = some (.closing .plainValue) := rfl
  have hleaf : element? "PlainValue" (render (leaf .plainValue value)) = some (Text.trim value) :=
    element?_leaf .plainValue (isSound_leaf .plainValue hvalue) (Mark.holds_leaf _ _)
  rw [element?_of_holds tag hmarks h, Option.bind_some, trim_render hfirst hlast, hleaf, htrim]

/-- What the line of the counter or of the time step holds, the package holds. -/
theorem holds_of_movingFactor {tag : Tag} {content : List Mark}
    (h : Mark.Holds tag content (movingFactorMarks p.token p.type))
    (htag : tag = .counter ∨ tag = .timeInterval) :
    Mark.Holds tag content (packageContent p) := by
  rcases htag with rfl | rfl
  all_goals
    refine .lines (.block ?_ (by decide)) [_] [] rfl 1
    refine .lines (.block ?_ (by decide)) [_, _] _ rfl 2
    exact .lines h [_] [] rfl 3

/-- A package has no other packages in it, and no line of the counter or of the time step if its
type has no such line. -/
theorem lacks_packageContent (p : Packaged) {tag : Tag}
    (htag : tag = .counter ∨ tag = .timeInterval ∨ tag = .keyPackage)
    (hmoving : Mark.lacks tag (movingFactorMarks p.token p.type) = true) :
    Mark.lacks tag (packageContent p) = true := by
  have howner : (userChildren p.owner).all (Mark.lacks tag) = true := by
    rcases htag with rfl | rfl | rfl <;> cases p.owner <;> rfl
  simp only [packageContent, packageChildren, keyChildren, secretChildren, cipherChildren,
    Mark.lacks_lines, Mark.lacks_block, Mark.lacks_leaf, List.all_cons, List.all_append,
    List.all_nil, hmoving, howner]
  rcases htag with rfl | rfl | rfl <;> rfl

/-- The value in the line of the counter or of the time step. -/
theorem movingFactor_render (tag : Tag) {value : List Char}
    (htag : tag = .counter ∨ tag = .timeInterval) (hvalue : IsPlain value)
    (htrim : Text.trim value = value)
    (h : Mark.Holds tag (leaf .plainValue value) (movingFactorMarks p.token p.type)) :
    (element? tag.name (render (packageContent p))).bind (element? "PlainValue") =
      some value :=
  plainValue_render tag (isSound_packageContent p) hvalue htrim
    (holds_of_movingFactor h htag)

/-- A package of the other type has no such line. -/
theorem movingFactor_render_eq_none (tag : Tag) (htag : tag = .counter ∨ tag = .timeInterval)
    (h : Mark.lacks tag (movingFactorMarks p.token p.type) = true) :
    element? tag.name (render (packageContent p)) = none := by
  have hlacks : Mark.lacks tag (packageContent p) = true :=
    lacks_packageContent p (htag.imp_right .inl) h
  exact element?_render_eq_none tag (isSound_packageContent p)
    (Mark.elementOf?_eq_none hlacks)

theorem counter_render : (((element? "Counter" (render (packageContent p))).bind
    (element? "PlainValue")).bind fun s => Text.readInt64 (Text.trim s)).getD 0 =
      p.described.counter := by
  unfold Packaged.described
  cases htype : p.type with
  | counterBased =>
    have hvalue : (element? "Counter" (render (packageContent p))).bind
        (element? "PlainValue") = some (Text.ofInt64 p.token.counter).toList := by
      refine movingFactor_render .counter (.inl rfl) (isPlain_ofInt64 _) (trim_ofInt64 _) ?_
      rw [htype]
      exact Mark.holds_self rfl
    rw [hvalue, Option.bind_some, trim_ofInt64, readInt64_ofInt64]
    rfl
  | timeBased =>
    have hnone : element? "Counter" (render (packageContent p)) = none := by
      refine movingFactor_render_eq_none .counter (.inl rfl) ?_
      rw [htype]
      rfl
    rw [hnone]
    rfl

theorem timeStep_render (h : p.token.IsTrimmed) (hsealed : p.IsSealed key) :
    ((element? "TimeInterval" (render (packageContent p))).bind
      (element? "PlainValue")).map (fun s => String.ofList (Text.trim s)) = p.read.timeStep := by
  have htoken := hsealed.ofToken?_eq
  unfold Packaged.read Packaged.described
  cases htype : p.type with
  | counterBased =>
    have hnone : element? "TimeInterval" (render (packageContent p)) = none := by
      refine movingFactor_render_eq_none .timeInterval (.inr rfl) ?_
      rw [htype]
      rfl
    rw [hnone]
    rfl
  | timeBased =>
    rw [htype] at htoken
    have htrim := trim_escape (h.trim_timeStep htoken)
    have hvalue : (element? "TimeInterval" (render (packageContent p))).bind
        (element? "PlainValue") = some (escape p.token.timeStep.toList) := by
      refine movingFactor_render .timeInterval (.inr rfl) (isPlain_escape _) htrim ?_
      rw [htype]
      exact Mark.holds_self rfl
    rw [hvalue, Option.map_some, htrim]
    rfl

theorem description_render (h : p.token.IsTrimmed) :
    String.ofList (((element? "FriendlyName" (render (packageContent p))).map
      unescape).getD []) = p.token.description := by
  have hholds : Mark.Holds .friendlyName [.text (escape p.token.description.toList)]
      (packageContent p) := by
    refine .lines (.block (.lines (Mark.holds_leaf _ _) _ [] ?_ 2) (by decide)) [_] [] rfl 1
    cases p.type <;> cases p.owner <;> rfl
  have hname : element? "FriendlyName" (render (packageContent p)) =
      some (Text.trim (escape p.token.description.toList)) :=
    element?_leaf .friendlyName (isSound_packageContent p) hholds
  rw [hname, trim_escape h.trim_description, Option.map_some, unescape_escape, Option.getD_some,
    String.ofList_toList]

/-! ## The whole package -/

/-- Reading a package whose signature is right or does not matter gives what the package says, the
time step as it is written. -/
theorem readPackage_render_of_passes (h : p.token.IsTrimmed)
    (hserial : ¬EndsIn "Algorithm".toList p.token.serial.toList) (hsealed : p.IsSealed key)
    (hpasses : policy = .ignore ∨ p.IsSigned macKey) :
    readPackage ⟨some key, some macKey.toList⟩ policy p.token.serial
      (render (packageContent p)) = .ok p.read := by
  unfold readPackage
  simp only [typeOf_render hserial, element?_secret, seedOf_render hsealed hpasses,
    passwordLength_render, timeStep_render h hsealed, counter_render, description_render h,
    Except.bind, bind, pure, Except.pure, Option.getD_some]
  rfl

/-- A written package is read under any policy. -/
theorem readPackage_render (h : p.token.IsTrimmed)
    (hserial : ¬EndsIn "Algorithm".toList p.token.serial.toList)
    (hauthentic : p.IsAuthentic key macKey) (policy : MacPolicy) :
    readPackage ⟨some key, some macKey.toList⟩ policy p.token.serial
      (render (packageContent p)) = .ok p.read :=
  readPackage_render_of_passes h hserial hauthentic.toIsSealed (.inr hauthentic.isSigned)

/-- No package is read if its serial ends in the name of the attribute with the algorithm. -/
theorem readPackage_render_of_endsIn (h : EndsIn "Algorithm".toList p.token.serial.toList)
    (keys : Keys) (policy : MacPolicy) (label : String) :
    readPackage keys policy label (render (packageContent p)) =
      .error (.malformed (.inPackage label "unsupported algorithm")) := by
  unfold readPackage
  rw [typeOf_render_of_endsIn h]
  rfl

end KeyContainer

end TokenInventory
