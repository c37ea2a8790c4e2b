import TokenInventory.Action.Listing
import TokenInventory.Exchange.Row
import TokenInventory.Proofs.Bytes.Base32Text
import TokenInventory.Proofs.Exchange.Seed
import TokenInventory.Proofs.Text.Decimal
import TokenInventory.Proofs.Text.Pieces

/-!
# The fields of a row

A row is written without quotes: between its fields stand a comma and a blank (`ExportedRow.text`).
The owner, the serial, the time step and a seed in digits are handed out as they are stored
(`ExportedRow.freeFields`); all other fields have neither a line break nor a comma in them. So a row
is one line exactly if no free field has a line break in it
(`ExportedRow.IsOf.lineBreak_not_mem_text_iff`), and it is taken apart into its fields exactly if no
free field has a comma and a blank in it (`ExportedRow.IsOf.splitWord_text_iff`). Rows of this kind
tell their tokens apart (`ExportedRow.IsOf.agrees_of_text_eq`).
-/

namespace TokenInventory

open Text

/-- What stands between the fields of a row. -/
def fieldBreak : List Char :=
  [',', ' ']

theorem isUnbordered_fieldBreak : IsUnbordered fieldBreak :=
  isUnbordered_pair (by decide)

/-- A token in a row, with its owner and its seed as it is exported. -/
structure ExportedRow where
  token : Token
  owner : Option User
  seed : String

namespace ExportedRow

/-- The fields of a row. -/
def fields (row : ExportedRow) : List String :=
  [exportedOwner row.owner, row.token.serial, row.seed, lowered row.token.tokenType,
      ofInt64 row.token.passwordLength] ++
    if lowered row.token.tokenType = "totp" then [row.token.timeStep] else []

/-- The text of a row. -/
def text (row : ExportedRow) : String :=
  joinWith ", " row.fields

/-- The fields that may hold any text. -/
def freeFields (inBase32 : Bool) (row : ExportedRow) : List String :=
  [exportedOwner row.owner, row.token.serial] ++ (if inBase32 then [] else [row.seed]) ++
    if lowered row.token.tokenType = "totp" then [row.token.timeStep] else []

/-- Whether a field has neither a line break nor a comma in it. -/
def IsUnbroken (field : String) : Prop :=
  '\n' ∉ field.toList ∧ ',' ∉ field.toList

/-- Whether no field has in it what stands between fields. -/
def IsSeparable (inBase32 : Bool) (row : ExportedRow) : Prop :=
  ∀ field ∈ row.freeFields inBase32, ¬fieldBreak <:+: field.toList

/-- Whether a row can be exported of a token of a store. -/
structure IsOf (store : Store) (inBase32 : Bool) (row : ExportedRow) : Prop where
  get?_eq : store.get? row.token.serial = some row.token
  owner_eq : row.owner = row.token.owner.bind store.resolve?
  type_eq : lowered row.token.tokenType = "hotp" ∨ lowered row.token.tokenType = "totp"
  seed_eq : Seed.encode row.token inBase32 = .ok row.seed

variable {row row' : ExportedRow} {store store' : Store} {inBase32 : Bool}

theorem fields_ne_nil (row : ExportedRow) : row.fields ≠ [] :=
  List.cons_ne_nil _ _

theorem freeFields_subset (inBase32 : Bool) (row : ExportedRow) :
    row.freeFields inBase32 ⊆ row.fields := by
  intro field hfield
  unfold freeFields at hfield
  unfold fields
  cases inBase32 <;> simp at hfield ⊢ <;> tauto

theorem toList_text (row : ExportedRow) :
    row.text.toList = fieldBreak.intercalate (row.fields.map String.toList) :=
  toList_joinWith _ _

/-! ## Fields that are not free -/

/-- A seed in base 32 has only letters and digits in it, and what it is filled up with. -/
theorem isUnbroken_of_encode {token : Token} {seed : String}
    (h : Seed.encode token true = .ok seed) : IsUnbroken seed := by
  obtain ⟨bytes, hbytes⟩ := Seed.exists_bytes_of_encode h
  rw [Seed.encode_of_bytes hbytes] at h
  cases h
  rw [IsUnbroken, if_pos rfl, String.toList_ofList]
  have hnot {c : Char} (hc : c ∉ '=' :: Base32.alphabet) : c ∉ Base32.encode bytes :=
    fun hmem => hc (List.mem_cons.2 (Base32.mem_encode hmem).symm)
  exact ⟨hnot (by decide), hnot (by decide)⟩

theorem IsOf.mem_freeFields_or (h : row.IsOf store inBase32) {field : String}
    (hfield : field ∈ row.fields) :
    field ∈ row.freeFields inBase32 ∨ IsUnbroken field := by
  have htype : IsUnbroken (lowered row.token.tokenType) := by
    rcases h.type_eq with heq | heq <;> rw [heq] <;> exact ⟨by decide, by decide⟩
  have hlength : IsUnbroken (ofInt64 row.token.passwordLength) :=
    ⟨not_mem_ofInt64 rfl (by decide) _, not_mem_ofInt64 rfl (by decide) _⟩
  have hseed : row.seed ∈ row.freeFields inBase32 ∨ IsUnbroken row.seed := by
    cases inBase32 with
    | false => exact .inl (by simp [freeFields])
    | true => exact .inr (isUnbroken_of_encode h.seed_eq)
  rcases List.mem_append.1 hfield with hfield | hstep
  · simp only [List.mem_cons, List.not_mem_nil, or_false] at hfield
    rcases hfield with rfl | rfl | rfl | rfl | rfl
    · exact .inl (by simp [freeFields])
    · exact .inl (by simp [freeFields])
    · exact hseed
    · exact .inr htype
    · exact .inr hlength
  · exact .inl (List.mem_append_right _ hstep)

/-- What the other fields have anyway, all fields have exactly if the free fields have it. -/
theorem IsOf.forall_mem_fields_iff (h : row.IsOf store inBase32) {p : String → Prop}
    (hp : ∀ field, IsUnbroken field → p field) :
    (∀ field ∈ row.fields, p field) ↔ ∀ field ∈ row.freeFields inBase32, p field :=
  ⟨fun hall field hfield => hall field (row.freeFields_subset inBase32 hfield),
    fun hfree field hfield => (h.mem_freeFields_or hfield).elim (hfree field) (hp field)⟩

/-! ## Taking a row apart -/

theorem IsOf.lineBreak_not_mem_text_iff (h : row.IsOf store inBase32) :
    '\n' ∉ row.text.toList ↔ ∀ field ∈ row.freeFields inBase32, '\n' ∉ field.toList := by
  rw [← h.forall_mem_fields_iff fun _ hfield => hfield.1, toList_text,
    mem_intercalate_iff (by decide)]
  simp

theorem IsOf.splitWord_text_iff (h : row.IsOf store inBase32) :
    splitWord fieldBreak row.text.toList = row.fields.map String.toList ↔
      row.IsSeparable inBase32 := by
  have hplain (field : String) (hfield : IsUnbroken field) : ¬fieldBreak <:+: field.toList :=
    fun hbreak => hfield.2 (hbreak.subset List.mem_cons_self)
  rw [IsSeparable, ← h.forall_mem_fields_iff hplain,
    splitWord_eq_iff (by decide) isUnbordered_fieldBreak,
    and_iff_right (List.map_eq_nil_iff.not.2 row.fields_ne_nil), and_iff_left row.toList_text,
    List.forall_mem_map]

/-- Rows that can be taken apart have the same fields if they have the same text. -/
theorem IsOf.fields_inj (h : row.IsOf store inBase32) (h' : row'.IsOf store' inBase32)
    (hrow : row.IsSeparable inBase32) (hrow' : row'.IsSeparable inBase32)
    (htext : row.text = row'.text) : row.fields = row'.fields := by
  have hmap : row.fields.map String.toList = row'.fields.map String.toList := by
    rw [← h.splitWord_text_iff.2 hrow, htext, h'.splitWord_text_iff.2 hrow']
  exact List.map_injective_iff.2 (fun _ _ => String.toList_inj.1) hmap

/-! ## What a row tells -/

/-- Whether two rows agree in what a row tells of a token. -/
structure Agrees (inBase32 : Bool) (row row' : ExportedRow) : Prop where
  owner_eq : exportedOwner row.owner = exportedOwner row'.owner
  serial_eq : row.token.serial = row'.token.serial
  seed_eq : if inBase32 then lowered row.token.seed = lowered row'.token.seed
    else row.token.seed = row'.token.seed
  type_eq : lowered row.token.tokenType = lowered row'.token.tokenType
  passwordLength_eq : row.token.passwordLength = row'.token.passwordLength
  timeStep_eq : lowered row.token.tokenType = "totp" → row.token.timeStep = row'.token.timeStep

theorem IsOf.seed_inj (h : row.IsOf store inBase32) (h' : row'.IsOf store' inBase32)
    (hseed : row.seed = row'.seed) :
    if inBase32 then lowered row.token.seed = lowered row'.token.seed
      else row.token.seed = row'.token.seed := by
  have hencode := h.seed_eq
  have hencode' := hseed ▸ h'.seed_eq
  cases inBase32 with
  | false => exact Except.ok.inj (hencode.trans hencode'.symm)
  | true =>
    obtain ⟨bytes, hbytes⟩ := Seed.exists_bytes_of_encode hencode
    obtain ⟨bytes', hbytes'⟩ := Seed.exists_bytes_of_encode hencode'
    have hread := Seed.decode_of_encode hbytes hencode row.token.serial
    rw [Seed.decode_of_encode hbytes' hencode'] at hread
    exact (Except.ok.inj hread).symm

/-- Rows that can be taken apart tell their tokens apart. -/
theorem IsOf.agrees_of_text_eq (h : row.IsOf store inBase32) (h' : row'.IsOf store' inBase32)
    (hrow : row.IsSeparable inBase32) (hrow' : row'.IsSeparable inBase32)
    (htext : row.text = row'.text) : row.Agrees inBase32 row' := by
  have hfields := h.fields_inj h' hrow hrow' htext
  simp only [fields, List.cons_append, List.nil_append, List.cons.injEq] at hfields
  obtain ⟨howner, hserial, hseed, htype, hlength, hstep⟩ := hfields
  refine ⟨howner, hserial, h.seed_inj h' hseed, htype, ofInt64_inj hlength, fun htotp => ?_⟩
  rw [if_pos htotp, if_pos (htype ▸ htotp)] at hstep
  exact List.singleton_inj.1 hstep

end ExportedRow

/-! ## Writing a row -/

theorem PasswordType.name_eq_or (type : PasswordType) :
    type.name = "hotp" ∨ type.name = "totp" := by
  cases type <;> simp [name]

/-- A row is written of exactly the tokens of the two types whose seed can be encoded. -/
theorem exportedRow_eq_ok_iff {token : Token} {owner : Option User} {inBase32 : Bool}
    {text : String} : exportedRow token owner inBase32 = .ok text ↔
      (lowered token.tokenType = "hotp" ∨ lowered token.tokenType = "totp") ∧
        ∃ seed, Seed.encode token inBase32 = .ok seed ∧
          text = ExportedRow.text ⟨token, owner, seed⟩ := by
  cases htype : PasswordType.ofToken? token with
  | none =>
    have hne (type : PasswordType) : lowered token.tokenType ≠ type.name := fun hname => by
      cases htype.symm.trans (PasswordType.ofName?_eq_some_iff.2 hname)
    rw [exportedRow, exportedType, htype]
    exact iff_of_false nofun fun h => h.1.elim (hne .counterBased) (hne .timeBased)
  | some type =>
    have hname := PasswordType.ofName?_eq_some_iff.1 htype
    rw [hname, and_iff_right type.name_eq_or]
    cases hseed : Seed.encode token inBase32 with
    | error e =>
      rw [exportedRow, exportedType, htype, hseed]
      exact iff_of_false nofun nofun
    | ok seed =>
      have hrow :
          exportedRow token owner inBase32 = .ok (ExportedRow.text ⟨token, owner, seed⟩) := by
        rw [exportedRow, exportedType, htype, hseed, ExportedRow.text, ExportedRow.fields, hname]
        cases type <;> rfl
      rw [hrow]
      constructor
      · rintro ⟨⟩
        exact ⟨seed, rfl, rfl⟩
      · rintro ⟨_, ⟨⟩, rfl⟩
        rfl

theorem Ownership.user?_ofToken (store : Store) (token : Token) :
    (ofToken store token).user? = token.owner.bind store.resolve? := by
  unfold ofToken
  cases token.owner with
  | none => rfl
  | some owner =>
    rw [Option.bind_some]
    dsimp only
    cases store.resolve? owner <;> rfl

/-- The row of a stored token. -/
theorem ExportedRow.exists_of_exportedRow {store : Store} {token : Token} {inBase32 : Bool}
    {text : String} (hget : store.get? token.serial = some token)
    (h : exportedRow token (Ownership.ofToken store token).user? inBase32 = .ok text) :
    ∃ row : ExportedRow, row.IsOf store inBase32 ∧ row.token = token ∧ row.text = text := by
  obtain ⟨htype, seed, hseed, rfl⟩ := exportedRow_eq_ok_iff.1 h
  exact ⟨⟨token, _, seed⟩, ⟨hget, Ownership.user?_ofToken store token, htype, hseed⟩, rfl, rfl⟩

end TokenInventory
