import Mathlib.Data.List.Induction
import TokenInventory.Proofs.Run.Import
import TokenInventory.Proofs.Run.Refusal

/-!
# Adding tokens next to others

A container may hold tokens with serials that are taken, in the store or by an earlier token of the
container. None of these is added: the stored tokens stay as they are, and for a new serial the
first token counts (`Added.addToken`). Every package of the container shows in one of the three
parts of the summary, and once a container has been loaded all its serials are taken, so loading it
again adds nothing (`loadTokens_loadTokens`).
-/

namespace TokenInventory

open KeyContainer (PackagedToken)

/-! ## One token after the other -/

/-- Whether a serial is taken, in a store or by an earlier token. -/
def IsTaken (store : Store) (earlier : List PackagedToken) (serial : String) : Prop :=
  (store.get? serial).isSome = true ∨ serial ∈ earlier.map PackagedToken.serial

instance (store : Store) (earlier : List PackagedToken) (serial : String) :
    Decidable (IsTaken store earlier serial) :=
  inferInstanceAs (Decidable (_ ∨ _))

/-- The serials of the tokens that come when their serial is taken. -/
def lateSerials (store : Store) (tokens : List PackagedToken) : List String :=
  (tokens.zipIdx.filter fun e => IsTaken store (tokens.take e.2) e.1.serial).map fun e =>
    e.1.serial

variable {store : Store} {tokens : List PackagedToken} {token : PackagedToken}
  {p : ImportProgress}

theorem lateSerials_concat (store : Store) (tokens : List PackagedToken) (token : PackagedToken) :
    lateSerials store (tokens ++ [token]) = lateSerials store tokens ++
      if IsTaken store tokens token.serial then [token.serial] else [] := by
  -- The tokens that come before an earlier one are the same.
  have hearlier : tokens.zipIdx.filter (fun e =>
      IsTaken store ((tokens ++ [token]).take e.2) e.1.serial) =
        tokens.zipIdx.filter fun e => IsTaken store (tokens.take e.2) e.1.serial :=
    List.filter_congr fun e he => by
      rw [List.take_append_of_le_length (List.snd_lt_of_mem_zipIdx he).le]
  unfold lateSerials
  rw [List.zipIdx_append, List.filter_append, List.map_append, hearlier, Nat.zero_add,
    List.zipIdx_singleton, List.filter_singleton, List.take_left]
  by_cases h : IsTaken store tokens token.serial <;> simp [h]

/-- If every serial is in the store already, every token comes late. -/
theorem lateSerials_of_forall (h : ∀ token ∈ tokens, (store.get? token.serial).isSome = true) :
    lateSerials store tokens = tokens.map PackagedToken.serial := by
  have hall : ∀ e ∈ tokens.zipIdx,
      decide (IsTaken store (tokens.take e.2) e.1.serial) = true := fun e he =>
    decide_eq_true (.inl (h e.1 (List.fst_mem_of_mem_zipIdx he)))
  rw [lateSerials, List.filter_eq_self.2 hall]
  conv_rhs => rw [← List.zipIdx_map_fst 0 tokens, List.map_map]
  rfl

/-- A token with a taken serial fails and leaves the store as it is. -/
theorem addToken_of_isSome (h : (p.store.get? token.serial).isSome = true)
    (hopen : (addToken p token).isBroken = false) :
    (addToken p token).store = p.store ∧ (addToken p token).summary =
      { p.summary with failed := p.summary.failed ++ [token.serial] } := by
  obtain ⟨stored, hget⟩ := Option.isSome_iff_exists.1 h
  have hget : (p.write (importLine token)).store.get? token.toToken.serial = some stored := hget
  rw [(addToken_eq hopen).2, saveNew]
  dsimp only
  rw [hget]
  exact ⟨rfl, rfl⟩

/-- In memory a token with a new serial is put into the store. -/
theorem addToken_of_eq_none (h : p.store.get? token.serial = none) (hfile : p.store.file = none)
    (hopen : (addToken p token).isBroken = false) :
    (addToken p token).store =
        { p.store with tokens := p.store.tokens.insert token.toToken } ∧
      (addToken p token).summary = { p.summary with imported := p.summary.imported + 1 } := by
  have hsave : p.store.save token.toToken =
      (.ok (), { p.store with tokens := p.store.tokens.insert token.toToken }) := by
    rcases p.store.save_cases token.toToken with ⟨_, hfind, -⟩ | ⟨-, hattempted⟩
    · cases hfind
    · exact hattempted.eq_of_file_eq_none hfile
  rw [ImportProgress.addToken_of_get?_eq_none h hsave hopen]
  exact ⟨rfl, rfl⟩

/-- One more token only counts if there was none with its serial. -/
theorem or_find?_concat (stored : Option Token) (tokens : List PackagedToken)
    (token : PackagedToken) (serial : String) :
    stored.or (((tokens ++ [token]).find? fun token => token.serial = serial).map
      PackagedToken.toToken) =
      (stored.or ((tokens.find? fun token => token.serial = serial).map
        PackagedToken.toToken)).or
          (if token.serial = serial then some token.toToken else none) := by
  rw [List.find?_append, Option.map_or, ← Option.or_assoc, List.find?_singleton]
  by_cases heq : token.serial = serial <;> simp [heq]

/-- What adding tokens to a store has made of it, and the summary of it. -/
structure Added (store : Store) (tokens : List PackagedToken) (after : Store)
    (summary : ImportSummary) : Prop where
  users_eq : after.users = store.users
  realms_eq : after.realms = store.realms
  file_eq : after.file = store.file
  /-- A stored token stays as it is, and for a new serial the first token counts. -/
  get?_eq : ∀ serial, after.get? serial = (store.get? serial).or
    ((tokens.find? fun token => token.serial = serial).map PackagedToken.toToken)
  failed_eq : summary.failed = lateSerials store tokens
  /-- The other tokens are counted. -/
  counted : summary.imported + summary.failed.length = tokens.length

namespace Added

variable {after after' : Store} {summary summary' : ImportSummary}

/-- The serials in the store at the end are those that are taken then. -/
theorem isSome_get?_iff (h : Added store tokens after summary) (serial : String) :
    (after.get? serial).isSome = true ↔ IsTaken store tokens serial := by
  rw [h.get?_eq, Option.isSome_or, Bool.or_eq_true, IsTaken, Option.isSome_map,
    List.find?_isSome, List.mem_map]
  simp only [decide_eq_true_iff]

theorem refl (store : Store) (notParsed : List String) :
    Added store [] store { notParsed } where
  users_eq := rfl
  realms_eq := rfl
  file_eq := rfl
  get?_eq _ := Option.or_none.symm
  failed_eq := rfl
  counted := rfl

/-- One more token, whose serial is new. -/
theorem insert (h : Added store tokens after summary)
    (hnew : ¬IsTaken store tokens token.serial) :
    Added store (tokens ++ [token]) { after with tokens := after.tokens.insert token.toToken }
      { summary with imported := summary.imported + 1 } := by
  have hnone : after.get? token.serial = none := by
    simpa using mt (h.isSome_get?_iff token.serial).1 hnew
  refine ⟨h.users_eq, h.realms_eq, h.file_eq, fun serial => ?_, ?_, ?_⟩
  · rw [or_find?_concat, ← h.get?_eq]
    refine (TokenTable.get?_insert _ _ _).trans ?_
    rw [show token.toToken.serial = token.serial from rfl]
    split
    · next heq => rw [← heq, hnone, Option.none_or]
    · exact Option.or_none.symm
  · rw [lateSerials_concat, if_neg hnew, List.append_nil, h.failed_eq]
  · simp [← h.counted, Nat.add_right_comm]

/-- One more token, whose serial is taken. -/
theorem refuse (h : Added store tokens after summary)
    (htaken : IsTaken store tokens token.serial) :
    Added store (tokens ++ [token]) after
      { summary with failed := summary.failed ++ [token.serial] } := by
  refine ⟨h.users_eq, h.realms_eq, h.file_eq, fun serial => ?_, ?_, ?_⟩
  · rw [or_find?_concat, ← h.get?_eq]
    split
    · next heq =>
      rw [← heq, Option.or_of_isSome ((h.isSome_get?_iff token.serial).2 htaken)]
    · rw [Option.or_none]
  · rw [lateSerials_concat, if_pos htaken, h.failed_eq]
  · simp [← h.counted, Nat.add_assoc]

/-- One more token. -/
theorem addToken (h : Added store tokens p.store p.summary) (hfile : store.file = none)
    (hopen : (addToken p token).isBroken = false) :
    Added store (tokens ++ [token]) (addToken p token).store (addToken p token).summary := by
  by_cases htaken : IsTaken store tokens token.serial
  · have hsome := (h.isSome_get?_iff token.serial).2 htaken
    obtain ⟨hstore, hsummary⟩ := addToken_of_isSome hsome hopen
    rw [hstore, hsummary]
    exact h.refuse htaken
  · have hnone : p.store.get? token.serial = none := by
      simpa using mt (h.isSome_get?_iff token.serial).1 htaken
    obtain ⟨hstore, hsummary⟩ := addToken_of_eq_none hnone (h.file_eq.trans hfile) hopen
    rw [hstore, hsummary]
    exact h.insert htaken

/-- Tokens are added to a store in memory one after the other, as long as the channel takes the
lines on them. -/
theorem foldl_addToken (hfile : store.file = none) {transcript : Transcript}
    {notParsed : List String} {tokens : List PackagedToken}
    (hopen : (tokens.foldl TokenInventory.addToken
      { store, transcript, summary := { notParsed } }).isBroken = false) :
    let p := tokens.foldl TokenInventory.addToken { store, transcript, summary := { notParsed } }
    Added store tokens p.store p.summary := by
  -- Whether a serial is taken depends on the tokens before, so the list grows at its end.
  induction tokens using List.reverseRecOn with
  | nil => exact refl store notParsed
  | append_singleton tokens token ih =>
    rw [List.foldl_concat] at hopen ⊢
    exact (ih (addToken_eq hopen).1).addToken hfile hopen

/-- Tokens that were added before all come late. -/
theorem again (h : Added store tokens after summary) (h' : Added after tokens after' summary') :
    after' = after ∧ summary'.imported = 0 ∧
      summary'.failed = tokens.map PackagedToken.serial := by
  have hlate : summary'.failed = tokens.map PackagedToken.serial := by
    refine h'.failed_eq.trans (lateSerials_of_forall fun token ht => ?_)
    exact (h.isSome_get?_iff token.serial).2 (.inr (List.mem_map_of_mem ht))
  refine ⟨Store.ext_get? h'.users_eq h'.realms_eq h'.file_eq fun serial => ?_, ?_, hlate⟩
  · rw [h'.get?_eq, h.get?_eq, Option.or_assoc, Option.or_self]
  · have hcount := h'.counted
    rw [hlate, List.length_map] at hcount
    omega

end Added

/-! ## The whole container -/

namespace KeyContainer

variable {container : List Char} {key : Option String} {policy : MacPolicy} {content : Import}

theorem read_eq_ok_iff : read container key policy = .ok content ↔
    ∃ results, resultsOf container key policy = .ok results ∧
      importOf policy results = .ok content := by
  unfold read
  cases resultsOf container key policy with
  | error e => exact ⟨nofun, fun ⟨_, h, _⟩ => nomatch h⟩
  | ok results => exact ⟨fun h => ⟨results, rfl, h⟩, fun ⟨_, rfl, h⟩ => h⟩

/-- Every key package of a container that was read is a token or was left out. -/
theorem length_of_read (h : read container key policy = .ok content) :
    content.tokens.length + content.notParsed.length = (packagesOf container).length := by
  obtain ⟨results, hresults, himport⟩ := read_eq_ok_iff.1 h
  have hcontent : content = .ofResults results := by
    unfold importOf at himport
    split at himport <;> cases himport
    rfl
  rw [hcontent, Import.length_ofResults]
  cases hkey : givenKey key with
  | error e => cases (resultsOf_of_error hkey).symm.trans hresults
  | ok given =>
    by_cases hnil : packagesOf container = []
    · cases (resultsOf_of_packagesOf_eq_nil hkey hnil).symm.trans hresults
    · cases (resultsOf_of_packagesOf_ne_nil hkey hnil).symm.trans hresults
      exact length_readPackages _ _ _

end KeyContainer

variable {file : ImportFile} {key : Option String} {policy : KeyContainer.MacPolicy}

/-- The tokens of a container that was read are added to a store in memory. -/
theorem loadTokens_of_read {text : String} {content : KeyContainer.Import}
    (hfile : store.file = none) (htext : file.text = .ok text)
    (hread : KeyContainer.read text.toList key policy = .ok content) :
    let r := loadTokens file key policy { store := store }
    ∃ summary, r.1 = .ok summary ∧ Added store content.tokens r.2.store summary ∧
      summary.notParsed = content.notParsed := by
  obtain ⟨results, hresults, himport⟩ := KeyContainer.read_eq_ok_iff.1 hread
  rcases loadTokens_of_resultsOf_ok htext hresults { store := store } with
    ⟨e, herror, -⟩ | ⟨content', transcript, himport', hopen, hload⟩
  · cases himport.symm.trans herror
  · cases himport.symm.trans himport'
    have hend := ((hopen ⟨rfl, rfl⟩).foldl_addToken content.tokens).isBroken_eq
    rw [hload, if_neg (Bool.eq_false_iff.1 hend)]
    exact ⟨_, rfl, Added.foldl_addToken hfile hend, notParsed_foldl_addToken _ _⟩

/-- Whatever keeps a container from being read does so before the store is touched. -/
theorem loadTokens_of_not_read (h : ¬∃ text content, file.text = .ok text ∧
      KeyContainer.read text.toList key policy = .ok content) (store : Store) :
    ∃ e, (loadTokens file key policy { store := store }).1 = .error e ∧
      (loadTokens file key policy { store := store }).2.store = store := by
  unfold loadTokens
  cases htext : file.text with
  | error e => exact ⟨e, rfl, rfl⟩
  | ok text =>
    dsimp only
    cases hresults : KeyContainer.resultsOf text.toList key policy with
    | error e => exact ⟨_, rfl, rfl⟩
    | ok results =>
      dsimp only
      cases himport : KeyContainer.importOf policy results with
      | error e => exact ⟨_, rfl, rfl⟩
      | ok content =>
        exact absurd ⟨text, content, htext,
          KeyContainer.read_eq_ok_iff.2 ⟨results, hresults, himport⟩⟩ h

/-- Loading a container into a store in memory is refused without touching the store, or it adds to
the store one token for every new serial and accounts for every key package. A second load of the
same file adds nothing. -/
theorem loadTokens_loadTokens (file : ImportFile) (key : Option String)
    (policy : KeyContainer.MacPolicy) (hfile : store.file = none) :
    let r := loadTokens file key policy { store := store }
    let again := loadTokens file key policy { store := r.2.store }
    (∃ e, r.1 = .error e ∧ r.2.store = store ∧ again = r) ∨
    ∃ text content summary, file.text = .ok text ∧
      KeyContainer.read text.toList key policy = .ok content ∧ r.1 = .ok summary ∧
      Added store content.tokens r.2.store summary ∧
      summary.notParsed = content.notParsed ∧
      summary.imported + summary.failed.length + summary.notParsed.length =
        (KeyContainer.packagesOf text.toList).length ∧
      again.1 = .ok
        { imported := 0
          failed := content.tokens.map PackagedToken.serial
          notParsed := content.notParsed } ∧
      again.2.store = r.2.store := by
  intro r again
  by_cases hcontent : ∃ text content, file.text = .ok text ∧
      KeyContainer.read text.toList key policy = .ok content
  · obtain ⟨text, content, htext, hread⟩ := hcontent
    obtain ⟨summary, hresult, hadded, hnotParsed⟩ := loadTokens_of_read hfile htext hread
    obtain ⟨⟨imported', failed', notParsed'⟩, hresult', hadded', rfl⟩ :=
      loadTokens_of_read (hadded.file_eq.trans hfile) htext hread
    obtain ⟨hsame, rfl, rfl⟩ := hadded.again hadded'
    refine .inr ⟨text, content, summary, htext, hread, hresult, hadded, hnotParsed, ?_, hresult',
      hsame⟩
    rw [hadded.counted, hnotParsed, KeyContainer.length_of_read hread]
  · obtain ⟨e, hresult, hstore⟩ := loadTokens_of_not_read hcontent store
    refine .inl ⟨e, hresult, hstore, ?_⟩
    rw [show again = loadTokens file key policy { store := r.2.store } from rfl, hstore]

set_option maxRecDepth 4000 in
/-- The serial of the first package is in the store, and the second and the third one share a new
serial. -/
theorem loadTokens_loadTokens_taken :
    let text := "<KeyPackage><SerialNo>A</SerialNo>
      <Key Algorithm=\"urn:ietf:params:xml:ns:keyprov:pskc:hotp\"/>
      <Secret><PlainValue>AA==</PlainValue></Secret></KeyPackage>
      <KeyPackage><SerialNo>B</SerialNo>
      <Key Algorithm=\"urn:ietf:params:xml:ns:keyprov:pskc:totp\"/>
      <Secret><PlainValue>AA==</PlainValue></Secret></KeyPackage>
      <KeyPackage><SerialNo>B</SerialNo>
      <Key Algorithm=\"urn:ietf:params:xml:ns:keyprov:pskc:hotp\"/>
      <Secret><PlainValue>AA==</PlainValue></Secret></KeyPackage>"
    let store : Store :=
      { tokens := TokenTable.empty.insert { serial := "A", tokenType := "hotp" }
        users := []
        realms := .empty }
    let file : ImportFile := ⟨"tokens.xml", .ok text⟩
    (loadTokens file none .refuse
      { store := (loadTokens file none .refuse { store := store }).2.store }).1 =
        .ok { imported := 0, failed := ["A", "B", "B"] } := by
  intro text store file
  -- Decoding the text in the kernel is slow, so its characters are taken from the literal.
  have htext := (rfl : text = String.ofList _)
  have hserials : (KeyContainer.read text.toList none .refuse).map
      (fun (content : KeyContainer.Import) =>
        (content.tokens.map PackagedToken.serial, content.notParsed)) =
        .ok (["A", "B", "B"], []) := by
    rw [htext, String.toList_ofList]
    decide +kernel
  have hfile : store.file = none := rfl
  have hload := loadTokens_loadTokens file none .refuse hfile
  cases hread : KeyContainer.read text.toList none .refuse with
  | error e =>
    rw [hread] at hserials
    cases hserials
  | ok content =>
    rw [hread] at hserials
    obtain ⟨hserials, hnone⟩ : content.tokens.map PackagedToken.serial = ["A", "B", "B"] ∧
      content.notParsed = [] := by simpa [Except.map] using hserials
    obtain ⟨summary, hresult, -⟩ := loadTokens_of_read hfile (rfl : file.text = .ok text) hread
    rcases hload with ⟨e, herror, -⟩ | ⟨_, content', _, htext', hread', -, -, -, -, hagain, -⟩
    · cases herror.symm.trans hresult
    · cases htext'
      cases hread.symm.trans hread'
      rw [hserials, hnone] at hagain
      exact hagain

end TokenInventory
