import Mathlib.Data.List.Induction
import TokenInventory.Proofs.Store.Table
import TokenInventory.Proofs.Token.Record
import TokenInventory.Store.Basic

/-!
# Store documents that were written

A document is read back from the text it is kept in (`Document.read?_write`). A store whose users
live in known realms is the store of its own document (`Store.ofDocument_document`), so a file with
the text of that document is opened as that store (`Store.ofFile_write`).
-/

namespace TokenInventory

namespace Document

theorem ofJson?_toJson (document : Document) : ofJson? document.toJson = some document := by
  have hfields : document.toJson.fields? ["tokens", "users", "realms"] = _ :=
    Json.fields?_obj (by decide) rfl
  have htokens : Json.list? Token.ofJson? (.arr (document.tokens.map Token.toJson)) = _ :=
    Json.list?_arr fun token _ => token.ofJson?_toJson
  have husers : Json.list? User.ofJson? (.arr (document.users.map User.toJson)) = _ :=
    Json.list?_arr fun user _ => user.ofJson?_toJson
  rw [ofJson?, hfields]
  simp only [List.map_cons, List.map_nil, Json.withDefault, htokens, husers, Json.list?_ofTexts,
    Option.bind_eq_bind, Option.bind_some]
  rfl

theorem whole_toJson (document : Document) : document.toJson.Whole := by
  refine .obj ?_
  simp only [List.forall_mem_cons, List.not_mem_nil, false_implies, implies_true, and_true]
  exact ⟨Json.whole_arr_map Token.whole_toJson _, Json.whole_arr_map User.whole_toJson _,
    Json.whole_ofTexts _⟩

/-- A document is read back from its text. -/
theorem read?_write (document : Document) : read? document.write = some document := by
  rw [read?, write, Json.ofText?_toIndented document.whole_toJson, Option.bind_some,
    ofJson?_toJson]

end Document

namespace TokenTable

theorem ofList_append {tokens tokens' : List Token} {table : TokenTable}
    (h : ofList tokens = .ok table) : ofList (tokens ++ tokens') =
      tokens'.foldlM (fun table token =>
        if (table.get? token.serial).isSome then .error token.serial
        else .ok (table.insert token)) table := by
  rw [ofList, List.foldlM_append]
  change (ofList tokens >>= _) = _
  rw [h]
  rfl

/-- The table of a list holds tokens of the list only. -/
theorem mem_of_ofList {tokens : List Token} {table : TokenTable} (h : ofList tokens = .ok table)
    {serial : String} {token : Token} (hget : table.get? serial = some token) :
    token ∈ tokens := by
  induction tokens using List.reverseRecOn generalizing table with
  | nil =>
    cases h
    exact absurd hget (by simp [empty, get?])
  | append_singleton tokens last ih =>
    rw [List.mem_append, List.mem_singleton]
    cases hrest : ofList tokens with
    | error e =>
      rw [ofList, List.foldlM_append] at h
      change (ofList tokens >>= _) = _ at h
      rw [hrest] at h
      cases h
    | ok rest =>
      rw [ofList_append hrest, List.foldlM_cons] at h
      split at h
      · cases h
      · cases h
        rw [get?_insert] at hget
        split at hget
        · exact .inr (Option.some.inj hget).symm
        · exact .inl (ih hrest hget)

/-- Tokens with different serials make a table in which each is found. -/
theorem exists_ofList {tokens : List Token} (h : (tokens.map Token.serial).Nodup) :
    ∃ table, ofList tokens = .ok table ∧
      ∀ token, table.get? token.serial = some token ↔ token ∈ tokens := by
  induction tokens using List.reverseRecOn with
  | nil => exact ⟨empty, rfl, fun token => by simp [empty, get?]⟩
  | append_singleton tokens token ih =>
    rw [List.map_append, List.nodup_append] at h
    obtain ⟨hnodup, -, hfresh⟩ := h
    obtain ⟨table, hok, hget⟩ := ih hnodup
    have hfresh : ∀ t ∈ tokens, t.serial ≠ token.serial := fun t ht =>
      hfresh _ (List.mem_map_of_mem ht) _ (List.mem_singleton_self _)
    have hnone : table.get? token.serial = none := by
      refine Option.eq_none_iff_forall_ne_some.2 fun t ht => ?_
      obtain ⟨hmem, hserial⟩ := (table.get?_eq_some_iff).1 ht
      exact hfresh t ((hget t).1 (hserial ▸ ht)) hserial
    refine ⟨table.insert token, ?_, fun t => ?_⟩
    · rw [ofList_append hok, List.foldlM_cons, hnone]
      rfl
    · rw [get?_insert, List.mem_append, List.mem_singleton]
      split
      · next heq =>
        refine ⟨fun ht => .inr (Option.some.inj ht).symm, ?_⟩
        rintro (ht | rfl)
        · exact absurd heq.symm (hfresh t ht)
        · rfl
      · next hne =>
        rw [hget]
        exact ⟨.inl, fun ht => ht.resolve_right fun heq => hne (heq ▸ rfl)⟩

/-- A table is made of its tokens. -/
theorem ofList_toList (table : TokenTable) : ofList table.toList = .ok table := by
  obtain ⟨copy, hok, hget⟩ := exists_ofList table.nodup_map_serial
  have : copy = table := by
    refine ext_get? fun serial => Option.ext fun token => ?_
    constructor
    · intro h
      obtain rfl := (get?_eq_some_iff _).1 h |>.2
      exact table.mem_toList_iff.1 ((hget token).1 h)
    · intro h
      obtain ⟨hmem, rfl⟩ := (get?_eq_some_iff _).1 h
      exact (hget token).2 hmem
  rw [hok, this]

end TokenTable

namespace Store

/-- Whether the realms of all users are known. -/
def KnowsUserRealms (store : Store) : Prop :=
  ∀ user ∈ store.users, store.knowsRealm user.realm = true

theorem knowsUserRealms_of_ofDocument {document : Document} {file : Option BackingFile}
    {store : Store} (h : ofDocument document file = .ok store) : store.KnowsUserRealms := by
  unfold ofDocument at h
  split at h
  · cases h
  · cases h
    intro user hu
    exact (SortedSet.contains_ofList _ _).2
      (List.mem_append_right _ (List.mem_map_of_mem hu))

/-- A store is the store of its document. -/
theorem ofDocument_document {store : Store} (h : store.KnowsUserRealms)
    (file : Option BackingFile) : ofDocument store.document file = .ok { store with file } := by
  have hrealms : SortedSet.ofList (store.realms.keys ++ store.users.map User.realm) =
      store.realms := by
    refine SortedSet.ext_contains fun s => ?_
    rw [SortedSet.contains_ofList, List.mem_append, ← SortedMap.contains_iff, List.mem_map]
    refine ⟨fun hs => hs.elim id ?_, .inl⟩
    rintro ⟨user, hu, rfl⟩
    exact h user hu
  rw [ofDocument, document, TokenTable.ofList_toList]
  simp only [hrealms]

/-- Opening a file depends on its content only. -/
theorem ofFile_congr {file file' : BackingFile} (hcontent : file'.content = file.content)
    {store : Store} (h : ofFile file = .ok store) :
    ofFile file' = .ok { store with file := some file' } := by
  unfold ofFile at h ⊢
  rw [hcontent]
  split at h
  · cases h
  · unfold ofDocument at h ⊢
    split at h
    · cases h
    · cases h
      simp only [*]

/-- The text of a store's document is opened as that store. -/
theorem ofFile_write (store : Store) (h : store.KnowsUserRealms) {file : BackingFile}
    (hcontent : file.content = store.document.write) :
    ofFile file = .ok { store with file := some file } := by
  rw [ofFile, hcontent, Document.read?_write]
  exact ofDocument_document h (some file)

end Store

end TokenInventory
