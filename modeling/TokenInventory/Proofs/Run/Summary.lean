import Mathlib.Algebra.BigOperators.Group.List.Lemmas
import Mathlib.Algebra.GroupWithZero.Nat
import Mathlib.Data.List.Perm.Subperm
import TokenInventory.Proofs.Action.Listing
import TokenInventory.Proofs.Run.Plain
import TokenInventory.Proofs.SortedMap
import TokenInventory.Proofs.Text.ByteOrder

/-!
# Summaries by owner

A summary has an entry for each label that tokens were counted under, with their number
(`OwnerSummary.mem_entries_ofLabels`), so it depends neither on the order of the tokens nor on the
batches they come in. Performing the action on a token does nothing but count it and note an owner
who is not known (`Progress.Counted.perform`).

Where no user has a quote in anything that is shown, a label stands for one user, and no label is
the beginning of another one, so that the lines are in the order of their labels. This makes the
lines a summary of the tokens by their owners (`Progress.summary_of_batches`).
-/

namespace TokenInventory

/-! ## Counting -/

namespace OwnerSummary

/-- The summary of tokens with the given labels. -/
def ofLabels (labels : List String) : OwnerSummary :=
  labels.foldl add SortedMap.empty

theorem get?_foldl_add (labels : List String) (summary : OwnerSummary) (label : String) :
    SortedMap.get? (labels.foldl add summary) label =
      if labels.count label = 0 then SortedMap.get? summary label
      else some ((SortedMap.get? summary label).getD 0 + labels.count label) := by
  induction labels generalizing summary with
  | nil => rfl
  | cons first labels ih =>
    rw [List.foldl_cons, ih, add, SortedMap.get?_insert, List.count_cons]
    by_cases h : first = label
    · subst h
      rw [beq_self_eq_true, if_pos rfl, if_pos rfl, if_neg (Nat.succ_ne_zero _)]
      split
      · next hzero => rw [hzero]
      · rw [Option.getD_some, Nat.add_assoc, Nat.add_comm 1]
    · simp [h]

/-- A label is listed with the number of its tokens. -/
theorem mem_entries_ofLabels {labels : List String} {label : String} {n : Nat} :
    (label, n) ∈ SortedMap.entries (ofLabels labels) ↔ n = labels.count label ∧ 0 < n := by
  rw [← SortedMap.get?_eq_some_iff, ofLabels, get?_foldl_add, SortedMap.get?_empty]
  split
  · next h => exact iff_of_false nofun (by omega)
  · next h =>
    rw [Option.getD_none, Nat.zero_add, Option.some.injEq, eq_comm]
    exact ⟨fun heq => ⟨heq, by omega⟩, fun heq => heq.1⟩

theorem ofLabels_congr {labels labels' : List String} (h : labels.Perm labels') :
    ofLabels labels = ofLabels labels' :=
  SortedMap.ext_get? fun label => by
    rw [ofLabels, ofLabels, get?_foldl_add, get?_foldl_add, h.count_eq]

theorem nodup_keys (summary : OwnerSummary) : (SortedMap.keys summary).Nodup :=
  (List.pairwise_map.2 summary.sorted).imp fun h => h.ne

/-- All tokens are counted. -/
theorem sum_entries_ofLabels (labels : List String) :
    ((SortedMap.entries (ofLabels labels)).map Prod.snd).sum = labels.length := by
  have hcounts : (SortedMap.entries (ofLabels labels)).map Prod.snd =
      (SortedMap.keys (ofLabels labels)).map (labels.count ·) := by
    rw [SortedMap.keys, List.map_map]
    exact List.map_congr_left fun e he => (mem_entries_ofLabels.1 he).1
  have hkeys : (SortedMap.keys (ofLabels labels)).Perm labels.dedup := by
    refine (List.perm_ext_iff_of_nodup (nodup_keys _) labels.nodup_dedup).2 fun label => ?_
    rw [List.mem_dedup, SortedMap.keys, List.mem_map, ← List.count_pos_iff (l := labels)]
    constructor
    · rintro ⟨⟨_, n⟩, he, rfl⟩
      obtain ⟨rfl, hpos⟩ := mem_entries_ofLabels.1 he
      exact hpos
    · intro hpos
      exact ⟨(label, _), mem_entries_ofLabels.2 ⟨rfl, hpos⟩, rfl⟩
  rw [hcounts, (hkeys.map _).sum_eq, List.sum_map_count_dedup_eq_length]

end OwnerSummary

/-! ## The order of lines -/

/-- Texts of which the first does not begin the second stay in order whatever follows them. -/
theorem append_lt_append_of_lt {a b : List Char} (h : a < b) (hbegins : ¬a <+: b)
    (x y : List Char) : a ++ x < b ++ y := by
  induction h with
  | nil => exact absurd (List.nil_prefix ..) hbegins
  | rel h => exact .rel h
  | cons _ ih => exact .cons (ih fun h => hbegins (List.cons_prefix_cons.2 ⟨rfl, h⟩))

/-! ## Labels of tokens -/

section Labels

variable {store : Store} {attributes : List String} {token : Token} {identity : Owner} {user : User}

theorem Token.ownerLabel_eq_noOwnerMark_iff :
    token.ownerLabel store attributes = noOwnerMark ↔ token.knownOwner? store = none := by
  refine ⟨fun h => ?_, fun h => knownOwner?_eq_none h attributes⟩
  cases howner : token.knownOwner? store with
  | none => rfl
  | some identity =>
    obtain ⟨user, -, -, hlabel⟩ := knownOwner?_eq_some howner
    rw [hlabel, ← String.toList_inj, userColumns, List.cons_append, toList_quotedRow_cons] at h
    cases h

/-- The tokens with the row of a user for a label are the tokens of the user. -/
theorem Token.ownerLabel_eq_quotedRow_iff (hplain : ∀ user ∈ store.users, user.IsUnquoted)
    (h : store.resolve? identity = some user) :
    token.ownerLabel store attributes = quotedRow (userColumns user attributes) ↔
      token.knownOwner? store = some identity := by
  have howned : Token.knownOwner? store { token with owner := some identity } = some identity := by
    rw [knownOwner?, Option.bind_some, h, Option.map_some, (User.identity_of_resolve? h).2]
  obtain ⟨user', h', -, hlabel⟩ := knownOwner?_eq_some howned
  obtain rfl : user = user' := Option.some.inj (h.symm.trans h')
  rw [← hlabel, ownerLabel_eq_iff hplain, howned]

end Labels

/-! ## Summaries by owner -/

/-- What a summary lists: the label of tokens without a known owner and the rows of users, each with
the number of the tokens it stands for. -/
structure IsOwnerSummary (store : Store) (attributes : List String) (tokens : List Token)
    (summary : OwnerSummary) : Prop where
  /-- All tokens are counted. -/
  sum_eq : ((SortedMap.entries summary).map Prod.snd).sum = tokens.length
  /-- No label is listed twice. -/
  nodup : (SortedMap.keys summary).Nodup
  /-- The lines are in the order of their bytes. -/
  ascending : (summary.lines.map Text.utf8).Pairwise (· < ·)
  /-- Tokens without an owner, or with one who is not in the directory, have a line of their own. -/
  noOwner : ∀ n, (noOwnerMark, n) ∈ SortedMap.entries summary ↔
    n = tokens.countP (fun token => token.knownOwner? store = none) ∧ 0 < n
  /-- The tokens of each user have a line of their own. -/
  owner : ∀ identity user, store.resolve? identity = some user → ∀ n,
    (quotedRow (userColumns user attributes), n) ∈ SortedMap.entries summary ↔
      n = tokens.countP (fun token => token.knownOwner? store = some identity) ∧ 0 < n
  /-- Every other line is that of one user. -/
  unique : ∀ label ∈ SortedMap.keys summary, label ≠ noOwnerMark → ∃! identity,
    ∃ user, store.resolve? identity = some user ∧ label = quotedRow (userColumns user attributes)

namespace OwnerSummary

variable {store : Store} {attributes : List String} {tokens : List Token}

/-- The summary of tokens. -/
def ofTokens (store : Store) (attributes : List String) (tokens : List Token) : OwnerSummary :=
  ofLabels (tokens.map fun token => token.ownerLabel store attributes)

theorem mem_entries_ofTokens {label : String} {n : Nat} :
    (label, n) ∈ SortedMap.entries (ofTokens store attributes tokens) ↔
      n = tokens.countP (fun token => token.ownerLabel store attributes = label) ∧ 0 < n := by
  rw [ofTokens, mem_entries_ofLabels, List.count_eq_countP, List.countP_map]
  rfl

theorem exists_token_of_mem_keys {label : String}
    (h : label ∈ SortedMap.keys (ofTokens store attributes tokens)) :
    ∃ token : Token, token.ownerLabel store attributes = label := by
  obtain ⟨⟨_, n⟩, he, rfl⟩ := List.mem_map.1 h
  obtain ⟨rfl, hpos⟩ := mem_entries_ofTokens.1 he
  obtain ⟨token, -, hlabel⟩ := List.countP_pos_iff.1 hpos
  exact ⟨token, of_decide_eq_true hlabel⟩

/-- No label begins another one, so what follows the labels does not change the order of lines. -/
theorem pairwise_lines (hplain : ∀ user ∈ store.users, user.IsUnquoted) :
    ((ofTokens store attributes tokens).lines.map Text.utf8).Pairwise (· < ·) := by
  rw [lines, List.map_map, List.pairwise_map]
  refine (ofTokens store attributes tokens).sorted.imp_of_mem fun {e e'} he he' hlt => ?_
  obtain ⟨token, htoken⟩ := exists_token_of_mem_keys (List.mem_map_of_mem he)
  obtain ⟨token', htoken'⟩ := exists_token_of_mem_keys (List.mem_map_of_mem he')
  have hbegins : ¬e.1.toList <+: e'.1.toList := by
    rintro ⟨rest, hrest⟩
    have hlabels : (token.ownerLabel store attributes).toList ++ rest =
        (token'.ownerLabel store attributes).toList ++ [] := by
      rw [htoken, htoken', hrest, List.append_nil]
    obtain ⟨-, rfl⟩ := Token.ownerLabel_append_inj hplain hlabels
    rw [List.append_nil, String.toList_inj] at hrest
    exact hlt.ne hrest
  refine Text.utf8_lt_iff.2 (String.lt_iff_toList_lt.2 ?_)
  dsimp only
  rw [String.append_assoc, String.append_assoc, String.toList_append (s := e.1),
    String.toList_append (s := e'.1)]
  exact append_lt_append_of_lt (String.lt_iff_toList_lt.1 hlt) hbegins _ _

/-- A summary tells the owners of the tokens apart. -/
theorem isOwnerSummary_ofTokens (hplain : ∀ user ∈ store.users, user.IsUnquoted) :
    IsOwnerSummary store attributes tokens (ofTokens store attributes tokens) where
  sum_eq := by rw [ofTokens, sum_entries_ofLabels, List.length_map]
  nodup := nodup_keys _
  ascending := pairwise_lines hplain
  noOwner n := by
    rw [mem_entries_ofTokens]
    simp only [Token.ownerLabel_eq_noOwnerMark_iff]
  owner identity user h n := by
    rw [mem_entries_ofTokens]
    simp only [Token.ownerLabel_eq_quotedRow_iff hplain h]
  unique label hlabel hmark := by
    obtain ⟨token, rfl⟩ := exists_token_of_mem_keys hlabel
    cases howner : token.knownOwner? store with
    | none => exact absurd (Token.knownOwner?_eq_none howner attributes) hmark
    | some identity =>
      obtain ⟨user, hresolve, -, hrow⟩ := Token.knownOwner?_eq_some howner
      refine ⟨identity, ⟨user, hresolve, hrow attributes⟩, ?_⟩
      rintro identity' ⟨user', hresolve', hrow'⟩
      rw [Token.ownerLabel_eq_quotedRow_iff hplain hresolve', howner] at hrow'
      exact (Option.some.inj hrow').symm

end OwnerSummary

/-! ## Performing the action -/

theorem Transcript.writeAll_notes {t : Transcript} (h : t.isBroken = false) (notes : List Note) :
    t.writeAll (notes.map .note) = { t with notes := notes.reverse ++ t.notes } := by
  induction notes generalizing t with
  | nil => rfl
  | cons note notes ih =>
    have hwrite : t.write (.note note) = { t with notes := note :: t.notes } := by
      rw [write, if_neg (Bool.eq_false_iff.1 h)]
    have hrest := ih (t := { t with notes := note :: t.notes }) h
    rw [writeAll] at hrest
    rw [List.map_cons, writeAll, List.foldl_cons, hwrite, hrest, List.reverse_cons,
      List.append_assoc]
    rfl

/-- A token is counted under its label, and what is written about it are notes. -/
theorem Performer.step_list {p : Performer} {attributes : List String}
    (haction : p.action = .list true attributes) (store : Store) (token : Token) :
    ∃ notes : List Note,
      p.step store token = {
        outcome := { serial := token.serial, status := .succeeded, detail := "listed" }
        outputs := notes.map .note
        performer := { p with summary := p.summary.add (token.ownerLabel store attributes) }
        store } := by
  have hstep : p.step store token = p.listStep true attributes store token := by rw [step, haction]
  rw [hstep, listStep, if_pos rfl, Token.ownerLabel]
  cases Ownership.ofToken store token with
  | unassigned => exact ⟨[], rfl⟩
  | known user => exact ⟨[], rfl⟩
  | unknown =>
    exact ⟨[.text (Text.line ("Failed to determine user for token " ++ token.serial ++ "."))], rfl⟩

theorem Performer.finish_of_container_eq_none {p : Performer} (h : p.container = none) :
    p.finish = p.summary.lines.flatMap Output.resultLine := by
  have hhead : p.writeHead = ([], p) := by rw [writeHead, h]
  rw [finish, hhead]
  simp only [h, List.append_nil]

namespace Progress

/-- What has become of a progress when it has counted tokens under labels and done nothing else to
the store and the results. -/
structure HasCounted (p : Progress) (labels : List String) (q : Progress) : Prop where
  performer_eq : q.performer =
    { p.performer with summary := labels.foldl OwnerSummary.add p.performer.summary }
  store_eq : q.store = p.store
  result_eq : q.transcript.result = p.transcript.result
  isBroken_eq : q.isBroken = false

variable {p q : Progress} {attributes : List String}

/-- Performing the action on a token counts it. -/
theorem hasCounted_perform (haction : p.performer.action = .list true attributes)
    (hbroken : p.isBroken = false) (token : Token) :
    p.HasCounted [token.ownerLabel p.store attributes] (p.perform token) := by
  obtain ⟨notes, hstep⟩ := Performer.step_list haction p.store token
  replace hbroken : p.transcript.isBroken = false := hbroken
  have hwrite := Transcript.writeAll_notes hbroken notes
  have hperform : p.perform token = ({ p with
      performer := { p.performer with
        summary := p.performer.summary.add (token.ownerLabel p.store attributes) }
      transcript := { p.transcript with notes := notes.reverse ++ p.transcript.notes } } :
        Progress).record { serial := token.serial, status := .succeeded, detail := "listed" } := by
    rw [perform, isBroken, hbroken, hstep]
    simp only [write, isBroken, hwrite, hbroken, Bool.false_eq_true, if_false]
    exact if_neg Bool.false_ne_true
  rw [hperform]
  exact ⟨rfl, rfl, rfl, hbroken⟩

/-- Performing the action on tokens counts them all. -/
theorem hasCounted_performAll (haction : p.performer.action = .list true attributes)
    (hbroken : p.isBroken = false) (tokens : List Token) :
    p.HasCounted (tokens.map fun token => token.ownerLabel p.store attributes)
      (p.performAll tokens) := by
  induction tokens generalizing p with
  | nil => exact ⟨rfl, rfl, rfl, hbroken⟩
  | cons token tokens ih =>
    have hfirst := hasCounted_perform haction hbroken token
    have hrest := ih (p := p.perform token) (by rw [hfirst.performer_eq]; exact haction)
      hfirst.isBroken_eq
    rw [hfirst.store_eq] at hrest
    refine ⟨?_, hrest.store_eq.trans hfirst.store_eq, hrest.result_eq.trans hfirst.result_eq,
      hrest.isBroken_eq⟩
    exact hrest.performer_eq.trans (by rw [hfirst.performer_eq]; rfl)

/-- The summary of tokens by their owners: whatever the order of the tokens and the batches they
come in, a progress that has performed the action on them writes the same lines at the end and has
not written any results before, and the lines are a summary of the tokens by their owners. -/
theorem summary_of_batches {entropy : Entropy}
    (hstart : p.performer = .start (.list true attributes) entropy) (hbroken : p.isBroken = false)
    (hplain : ∀ user ∈ p.store.users, user.IsUnquoted) (tokens : List Token) :
    ∃ summary : OwnerSummary, IsOwnerSummary p.store attributes tokens summary ∧
      ∀ batches : List (List Token), batches.flatten.Perm tokens →
        (batches.foldl performAll p).performer.finish =
            summary.lines.flatMap Output.resultLine ∧
          (batches.foldl performAll p).transcript.result = p.transcript.result ∧
          (batches.foldl performAll p).isBroken = false := by
  refine ⟨.ofTokens p.store attributes tokens, OwnerSummary.isOwnerSummary_ofTokens hplain,
    fun batches hperm => ?_⟩
  have haction : p.performer.action = .list true attributes := by
    rw [hstart]
    rfl
  have hcounted := hasCounted_performAll haction hbroken batches.flatten
  rw [show p.performAll batches.flatten = batches.foldl performAll p from
    List.foldl_flatten] at hcounted
  refine ⟨?_, hcounted.result_eq, hcounted.isBroken_eq⟩
  have hsummary := OwnerSummary.ofLabels_congr
    (hperm.map fun token => token.ownerLabel p.store attributes)
  rw [hcounted.performer_eq, Performer.finish_of_container_eq_none (by rw [hstart]; rfl),
    OwnerSummary.ofTokens, ← hsummary, hstart]
  rfl

/-- Two tokens of one user, one of an owner who is not in the directory and one of nobody, in two
batches. -/
theorem summary_of_batches_four_tokens :
    let user : User :=
      { uid := "7", resolver := "r", realm := "corp", username := "ada", surname := "L, 1"
        attributes := SortedMap.empty.insert "phone" "12" }
    let p : Progress :=
      { store := { tokens := .empty, users := [user], realms := .empty }
        performer := .start (.list true ["phone"]) ⟨fun _ => 0, 0⟩ }
    let tokens : List Token :=
      [{ serial := "A1", tokenType := "hotp", owner := some user.identity },
        { serial := "B2", tokenType := "totp", owner := some ⟨"8", "r", "corp"⟩ },
        { serial := "C3", tokenType := "hotp" },
        { serial := "D4", tokenType := "totp", owner := some user.identity }]
    p.isBroken = false ∧ (∀ user ∈ p.store.users, user.IsUnquoted) ∧
      ∃ summary, IsOwnerSummary p.store ["phone"] tokens summary ∧
        summary.lines.flatMap Output.resultLine =
          ["'ada','','L, 1','7','r','corp','12',2", "N/A, , , , , ,2"].flatMap
            Output.resultLine := by
  intro user p tokens
  have hplain : ∀ user ∈ p.store.users, user.IsUnquoted := by
    intro _ huser
    obtain rfl := List.mem_singleton.1 huser
    refine ⟨by decide, fun name value hvalue => ?_⟩
    rw [SortedMap.get?_insert] at hvalue
    split at hvalue <;> cases hvalue
    decide
  have hstart : p.performer = .start (.list true ["phone"]) ⟨fun _ => 0, 0⟩ := rfl
  obtain ⟨summary, hsummary, hwritten⟩ := summary_of_batches hstart rfl hplain tokens
  refine ⟨rfl, hplain, summary, hsummary, ?_⟩
  rw [← (hwritten [tokens.take 2, tokens.drop 2] (.refl _)).1]
  decide +kernel

end Progress

end TokenInventory
