import TokenInventory.Action.Performer
import TokenInventory.Proofs.Exchange.Seed
import TokenInventory.Proofs.KeyContainer.Written
import TokenInventory.Proofs.Run.Notes

/-!
# The export of one token

A format may leave a token out for its type, or refuse it for want of the bytes of its seed; all
other tokens are written (`exportedRow_cases`, `ofToken_cases`, `package_cases`). Once the head of a
container is written, a step of an export gives an outcome that accounts for its token
(`Exporting.Accounts`): it writes the text of a success and notes all else, and only a success is
counted (`Performer.Exports.step`).
-/

namespace TokenInventory

open KeyContainer

/-- Whether a format leaves a token out: only entries can be of any type. -/
def ExportFormat.LeavesOut (format : ExportFormat) (token : Token) : Prop :=
  format ≠ .entries ∧ Text.lowered token.tokenType ≠ "hotp" ∧
    Text.lowered token.tokenType ≠ "totp"

/-- Whether the bytes of a seed are needed to write a token in a format. -/
def ExportFormat.NeedsBytes (format : ExportFormat) (inBase32 : Bool) : Prop :=
  format = .container ∨ inBase32 = true

/-- Whether a token can be written in a format. -/
structure ExportFormat.Takes (format : ExportFormat) (inBase32 : Bool) (token : Token) : Prop where
  not_leavesOut : ¬format.LeavesOut token
  hasBytes : format.NeedsBytes inBase32 → token.HasBytes

/-- Why a token cannot be written in a format: its type comes before its seed. -/
inductive ExportFormat.Refuses (format : ExportFormat) (inBase32 : Bool) (token : Token) :
    ExchangeError → Prop
  | type (h : format.LeavesOut token) :
    Refuses format inBase32 token (.unsupportedType token.serial token.tokenType format.name)
  | seed (h : ¬format.LeavesOut token) (hneeds : format.NeedsBytes inBase32)
    (hbytes : ¬token.HasBytes) : Refuses format inBase32 token (.invalidSeed token.serial)

/-! ## The encoders -/

theorem PasswordType.ofToken?_eq_none_iff {token : Token} : PasswordType.ofToken? token = none ↔
    Text.lowered token.tokenType ≠ "hotp" ∧ Text.lowered token.tokenType ≠ "totp" := by
  unfold ofToken? ofName?
  split_ifs with hcounter htime <;> simp_all

theorem exportedType_cases (token : Token) {format : ExportFormat} (hformat : format ≠ .entries) :
    (¬format.LeavesOut token ∧ ∃ type, PasswordType.ofToken? token = some type ∧
        exportedType token format.name = .ok type) ∨
      (format.LeavesOut token ∧ exportedType token format.name =
        .error (.unsupportedType token.serial token.tokenType format.name)) := by
  have hleaves : format.LeavesOut token ↔ PasswordType.ofToken? token = none := by
    rw [PasswordType.ofToken?_eq_none_iff, ExportFormat.LeavesOut, and_iff_right hformat]
  rw [hleaves, exportedType]
  cases PasswordType.ofToken? token with
  | some type => exact .inl ⟨nofun, type, rfl, rfl⟩
  | none => exact .inr ⟨rfl, rfl⟩

/-- A row is written of the tokens that the format takes. -/
theorem exportedRow_cases (token : Token) (owner : Option User) (inBase32 : Bool) :
    (ExportFormat.rows.Takes inBase32 token ∧ ∃ row, exportedRow token owner inBase32 = .ok row) ∨
      ∃ e, ExportFormat.rows.Refuses inBase32 token e ∧
        exportedRow token owner inBase32 = .error e := by
  rw [exportedRow]
  rcases exportedType_cases token (show ExportFormat.rows ≠ .entries by decide) with
    ⟨htype, type, -, hok⟩ | ⟨htype, herror⟩
  · rw [show exportedType token "csv" = .ok type from hok]
    rcases Seed.encode_cases token inBase32 with ⟨hseed, text, hok⟩ | ⟨hbase, hseed, herror⟩
    · rw [hok]
      refine .inl ⟨⟨htype, fun h => hseed (h.resolve_left nofun)⟩, ?_⟩
      cases type <;> exact ⟨_, rfl⟩
    · rw [herror]
      exact .inr ⟨_, .seed htype (.inr hbase) hseed, rfl⟩
  · rw [show exportedType token "csv" = _ from herror]
    exact .inr ⟨_, .type htype, rfl⟩

/-- An entry is written of the tokens that the format takes. -/
theorem ofToken_cases (token : Token) (owner : Option User) (inBase32 : Bool) :
    (ExportFormat.entries.Takes inBase32 token ∧
        ∃ entry, Entry.ofToken token owner inBase32 = .ok entry) ∨
      ∃ e, ExportFormat.entries.Refuses inBase32 token e ∧
        Entry.ofToken token owner inBase32 = .error e := by
  have htype : ¬ExportFormat.entries.LeavesOut token := fun h => h.1 rfl
  rw [Entry.ofToken]
  rcases Seed.encode_cases token inBase32 with ⟨hseed, text, hok⟩ | ⟨hbase, hseed, herror⟩
  · rw [hok]
    exact .inl ⟨⟨htype, fun h => hseed (h.resolve_left nofun)⟩, _, rfl⟩
  · rw [herror]
    exact .inr ⟨_, .seed htype (.inr hbase) hseed, rfl⟩

/-- A key package is written of the tokens that the format takes, and counted. -/
theorem package_cases (writer : Writer) (token : Token) (owner : Option User) (entropy : Entropy)
    (inBase32 : Bool) :
    (ExportFormat.container.Takes inBase32 token ∧ ∃ (p : Packaged) (entropy' : Entropy),
        p.token = token ∧ p.owner = owner ∧ p.IsAuthentic writer.key writer.macKey ∧
        writer.package token owner entropy = .ok (p.texts.text,
          { writer with exported := writer.exported + 1 }, entropy')) ∨
      ∃ e, ExportFormat.container.Refuses inBase32 token e ∧
        writer.package token owner entropy = .error e := by
  rcases exportedType_cases token (show ExportFormat.container ≠ .entries by decide) with
    ⟨htype, type, hsome, htypeOk⟩ | ⟨htype, herror⟩
  · rcases Seed.bytes_cases token with ⟨hbytes, seed, hseed⟩ | ⟨hbytes, herror⟩
    · obtain ⟨text, ⟨writer', entropy'⟩, hpackage⟩ :=
        writer.exists_package hsome hseed owner entropy
      obtain ⟨p, htoken, howner, hauthentic, rfl, rfl⟩ := Writer.exists_packaged hpackage
      exact .inl ⟨⟨htype, fun _ => hbytes⟩, p, entropy', htoken, howner, hauthentic, hpackage⟩
    · refine .inr ⟨_, .seed htype (.inl rfl) hbytes, ?_⟩
      rw [Writer.package, show exportedType token "pskc" = .ok type from htypeOk, herror]
      rfl
  · refine .inr ⟨_, .type htype, ?_⟩
    rw [Writer.package, show exportedType token "pskc" = _ from herror]
    rfl

/-! ## The step -/

/-- What an export is about: how tokens are written, the keys of a container if they are written to
one, and the store that knows their owners. -/
structure Exporting where
  format : ExportFormat
  inBase32 : Bool
  key : Key
  macKey : Key
  store : Store

namespace Exporting

/-- Whether a token is written as a text. -/
def Encodes (x : Exporting) (token : Token) (text : String) : Prop :=
  let owner := (Ownership.ofToken x.store token).user?
  match x.format with
  | .rows => ∃ row, exportedRow token owner x.inBase32 = .ok row ∧ text = Text.line row
  | .entries => ∃ entry, Entry.ofToken token owner x.inBase32 = .ok entry ∧ text = entry.write
  | .container => ∃ p : Packaged, p.token = token ∧ p.owner = owner ∧
      p.IsAuthentic x.key x.macKey ∧ text = p.texts.text

/-- What the export of a token comes to: an outcome, and a text if it is a success. -/
inductive Accounts (x : Exporting) (token : Token) : Outcome → String → Prop
  | succeeded {text : String} (htakes : x.format.Takes x.inBase32 token)
    (hencodes : x.Encodes token text) :
    Accounts x token ⟨token.serial, .succeeded, "exported"⟩ text
  | skipped (h : x.format.LeavesOut token) :
    Accounts x token ⟨token.serial, .skipped,
      (ExchangeError.unsupportedType token.serial token.tokenType x.format.name).message⟩ ""
  | failed (h : ¬x.format.LeavesOut token) (hneeds : x.format.NeedsBytes x.inBase32)
    (hbytes : ¬token.HasBytes) :
    Accounts x token ⟨token.serial, .failed, (ExchangeError.invalidSeed token.serial).message⟩ ""

theorem Accounts.serial_eq {x : Exporting} {token : Token} {outcome : Outcome} {text : String}
    (h : x.Accounts token outcome text) : outcome.serial = token.serial := by
  cases h <;> rfl

/-- Whether a text is the head that comes before the tokens, if they are written to a container. -/
def IsHead (x : Exporting) (head : List Char) : Prop :=
  match x.format with
  | .container => ∃ id sealed, openSealed x.key sealed = some x.macKey.toList ∧
      head = (headText (identifier id) (base64Text sealed)).toList
  | _ => head = []

/-- The foot that comes after the tokens, if they are written to a container. -/
def foot (x : Exporting) : List Char :=
  if x.format = .container then footText.toList else []

/-- What is noted after the tokens, if they are written to a container of so many packages. -/
def closingNote (x : Exporting) (count : Nat) : List Char :=
  if x.format = .container then (Writer.banner ⟨x.key, x.macKey, count⟩).toList else []

end Exporting

/-- What is noted about the outcome of an export. -/
def Outcome.exportNote (outcome : Outcome) : String :=
  match outcome.status with
  | .succeeded => ""
  | .skipped => Text.line ("Skipping token " ++ outcome.serial ++ ": " ++ outcome.detail)
  | .failed => Text.line ("Failed to export token " ++ outcome.serial ++ ": " ++ outcome.detail)

/-- A performer in the middle of an export, with the number of packages it has written if it writes
a container. The head of the container is written already. -/
structure Performer.Exports (x : Exporting) (count : Nat) (p : Performer) : Prop where
  action_eq : p.action = .exportAs x.format x.inBase32
  summary_eq : p.summary = SortedMap.empty
  container_eq : p.container =
    if x.format = .container then some ⟨x.key, x.macKey, count⟩ else none
  hasHead_eq : x.format = .container → p.hasHead = true

namespace Performer.Exports

variable {x : Exporting} {count : Nat} {p : Performer}

theorem writeHead_eq (h : p.Exports x count) : p.writeHead = ([], p) := by
  rw [writeHead, h.container_eq]
  by_cases hformat : x.format = .container
  · rw [if_pos hformat, h.hasHead_eq hformat]
    rfl
  · rw [if_neg hformat]

/-- A token is written or refused, and a refusal writes nothing and is not counted. -/
theorem exported_cases (h : p.Exports x count) (token : Token) :
    (x.format.Takes x.inBase32 token ∧ ∃ text q, x.Encodes token text ∧ q.Exports x (count + 1) ∧
        p.exported x.format x.inBase32 token (Ownership.ofToken x.store token).user? =
          ([], .ok (text, q))) ∨
      ∃ e, x.format.Refuses x.inBase32 token e ∧
        p.exported x.format x.inBase32 token (Ownership.ofToken x.store token).user? =
          ([], .error e) := by
  have hhead := h.writeHead_eq
  obtain ⟨haction, hsummary, hcontainer, hhasHead⟩ := h
  obtain ⟨format, inBase32, key, macKey, store⟩ := x
  dsimp only at *
  cases format with
  | rows =>
    rcases exportedRow_cases token (Ownership.ofToken store token).user? inBase32 with
      ⟨htakes, row, hok⟩ | ⟨e, hrefuses, herror⟩
    · refine .inl ⟨htakes, _, p, ⟨row, hok, rfl⟩, ⟨haction, hsummary, hcontainer, hhasHead⟩, ?_⟩
      rw [exported, hok]
      rfl
    · exact .inr ⟨e, hrefuses, by rw [exported, herror]; rfl⟩
  | entries =>
    rcases ofToken_cases token (Ownership.ofToken store token).user? inBase32 with
      ⟨htakes, entry, hok⟩ | ⟨e, hrefuses, herror⟩
    · refine .inl ⟨htakes, _, p, ⟨entry, hok, rfl⟩, ⟨haction, hsummary, hcontainer, hhasHead⟩, ?_⟩
      rw [exported, hok]
      rfl
    · exact .inr ⟨e, hrefuses, by rw [exported, herror]; rfl⟩
  | container =>
    rw [if_pos rfl] at hcontainer
    rcases package_cases ⟨key, macKey, count⟩ token (Ownership.ofToken store token).user? p.entropy
      inBase32 with ⟨htakes, q, entropy', htoken, howner, hauthentic, hok⟩ | ⟨e, hrefuses, herror⟩
    · refine .inl ⟨htakes, _,
        { p with container := some ⟨key, macKey, count + 1⟩, entropy := entropy' },
        ⟨q, htoken, howner, hauthentic, rfl⟩, ⟨haction, hsummary, rfl, hhasHead⟩, ?_⟩
      rw [exported, hhead]
      simp only [Performer.package, hcontainer, hok]
      rfl
    · refine .inr ⟨e, hrefuses, ?_⟩
      rw [exported, hhead]
      simp only [Performer.package, hcontainer, herror]
      rfl

theorem step_of_ok (h : p.Exports x count) {token : Token} {text : String} {q : Performer}
    (heq : p.exported x.format x.inBase32 token (Ownership.ofToken x.store token).user? =
      ([], .ok (text, q))) : p.step x.store token =
        { outcome := ⟨token.serial, .succeeded, "exported"⟩, outputs := [.result text]
          performer := q, store := x.store } := by
  rw [Performer.step, h.action_eq]
  unfold exportStep
  simp only [heq]
  rfl

theorem step_of_error (h : p.Exports x count) {token : Token} {e : ExchangeError}
    (heq : p.exported x.format x.inBase32 token (Ownership.ofToken x.store token).user? =
      ([], .error e)) :
    let outcome : Outcome := ⟨token.serial, if e.isSkip then .skipped else .failed, e.message⟩
    p.step x.store token =
      { outcome, outputs := [.note (.text outcome.exportNote)]
        performer := p, store := x.store } := by
  intro outcome
  rw [Performer.step, h.action_eq]
  unfold exportStep
  simp only [heq, h.writeHead_eq, List.nil_append, outcome]
  cases e <;> rfl

/-- The step for a token gives an outcome that accounts for it, and writes what that says. -/
theorem step (h : p.Exports x count) (token : Token) : ∃ text,
    x.Accounts token (p.step x.store token).outcome text ∧
      (p.step x.store token).store = x.store ∧
      (p.step x.store token).performer.Exports x
        (count + if (p.step x.store token).outcome.isSuccess then 1 else 0) ∧
      resultChars (p.step x.store token).outputs = text.toList ∧
      noteChars (p.step x.store token).outputs =
        (p.step x.store token).outcome.exportNote.toList := by
  rcases h.exported_cases token with ⟨htakes, text, q, hencodes, hq, heq⟩ | ⟨e, hrefuses, heq⟩
  · rw [h.step_of_ok heq]
    exact ⟨text, .succeeded htakes hencodes, rfl, hq, List.append_nil _, rfl⟩
  · rw [h.step_of_error heq]
    refine ⟨"", ?_⟩
    cases hrefuses with
    | type hleaves => exact ⟨.skipped hleaves, rfl, h, rfl, List.append_nil _⟩
    | seed hleaves hneeds hbytes =>
      exact ⟨.failed hleaves hneeds hbytes, rfl, h, rfl, List.append_nil _⟩

/-! ## The start and the end -/

/-- At the end the foot of a container follows, and a note on the number of its packages. -/
theorem finish (h : p.Exports x count) : resultChars p.finish = x.foot ∧
    noteChars p.finish = x.closingNote count := by
  rw [Performer.finish, h.writeHead_eq]
  dsimp only
  rw [h.summary_eq, h.container_eq, Exporting.foot, Exporting.closingNote]
  split_ifs
  · exact ⟨List.append_nil _, List.append_nil _⟩
  · exact ⟨rfl, rfl⟩

end Performer.Exports

/-- A performer that has written the head is in the middle of an export. -/
theorem Performer.exports_start (format : ExportFormat) (inBase32 : Bool) (entropy : Entropy)
    (store : Store) : ∃ key macKey,
      (start (.exportAs format inBase32) entropy).writeHead.2.Exports
          ⟨format, inBase32, key, macKey, store⟩ 0 ∧
        Exporting.IsHead ⟨format, inBase32, key, macKey, store⟩
          (resultChars (start (.exportAs format inBase32) entropy).writeHead.1) ∧
        noteChars (start (.exportAs format inBase32) entropy).writeHead.1 = [] := by
  cases format with
  | rows | entries =>
    exact ⟨.replicate 16 0, .replicate 16 0, ⟨rfl, rfl, rfl, nofun⟩, rfl, rfl⟩
  | container =>
    obtain ⟨id, sealed, hopen, hhead⟩ :=
      (Writer.random entropy).1.exists_sealed (Writer.random entropy).2
    refine ⟨_, _, ⟨rfl, rfl, rfl, fun _ => rfl⟩, ⟨id, sealed, hopen, ?_⟩, rfl⟩
    rw [← hhead]
    exact List.append_nil _

end TokenInventory
