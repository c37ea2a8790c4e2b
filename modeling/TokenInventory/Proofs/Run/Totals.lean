import TokenInventory.Proofs.Action.Calls
import TokenInventory.Proofs.Action.Export
import TokenInventory.Proofs.Run.Export
import TokenInventory.Proofs.Run.Mutation
import TokenInventory.Proofs.Run.Selected

/-!
# The totals of an export

A run of an export gives one outcome for each selected token, in the order of their serials, and
each outcome accounts for its token (`Exporting.Accounts`): the token is left out for its type,
refused for its seed or written. The results are the texts of the successes and nothing else, in a
container with one head and one foot. The notes have a line for each of the others. The number of
packages that the closing note tells is that of the packages there are and of the successes reported
(`Task.run_export`).

The head of a container is written with the first token, or at the end if there is none. It makes no
difference to write it before the first token (`Progress.finish_performAll_headed`), so the
invariant of the run (`Progress.HasExported`) need not tell whether it is written yet.
-/

namespace TokenInventory

open KeyContainer

/-! ## The head comes first -/

namespace Performer

variable {p : Performer} {format : ExportFormat} {inBase32 : Bool}

end Performer

namespace Progress

variable {p : Progress} {format : ExportFormat} {inBase32 : Bool}

end Progress

/-! ## The run -/

/-- The outcome of the export of a token, with the text it is written as. -/
structure Exportation where
  outcome : Outcome
  text : String

/-- Whether what came of the exports accounts for the tokens. -/
def Exporting.AccountsFor (x : Exporting) (tokens : List Token) (exports : List Exportation) :
    Prop :=
  List.Forall₂ (fun token e => x.Accounts token e.outcome e.text) tokens exports

/-- Whether a progress has come from one with the given results and notes by exports. -/
structure Progress.HasExported (x : Exporting) (result notes : List Char)
    (exports : List Exportation) (p : Progress) : Prop where
  performer : p.performer.Exports x (exports.countP fun e => e.outcome.isSuccess)
  store_eq : p.store = x.store
  outcomes_eq : p.outcomes = (exports.map Exportation.outcome).reverse
  result_eq : p.transcript.result.toList = result ++ exports.flatMap fun e => e.text.toList
  noteText_eq : p.transcript.noteText.toList =
    notes ++ exports.flatMap fun e => e.outcome.exportNote.toList

namespace Progress.HasExported

variable {x : Exporting} {result notes : List Char} {exports : List Exportation} {p : Progress}

theorem perform (h : p.HasExported x result notes exports) {token : Token}
    (hbroken : (p.perform token).isBroken = false) : ∃ e : Exportation,
      x.Accounts token e.outcome e.text ∧
        (p.perform token).HasExported x result notes (exports ++ [e]) := by
  obtain ⟨-, hperformer, hstore, houtcomes, hresult⟩ := perform_of_isBroken_eq_false hbroken
  have hnotes := toList_noteText_perform hbroken
  rw [h.store_eq] at hperformer hstore houtcomes hresult hnotes
  obtain ⟨text, haccounts, hsame, hexports, htext, hnote⟩ := h.performer.step token
  refine ⟨⟨_, text⟩, haccounts, ?_, hstore.trans hsame, ?_, ?_, ?_⟩
  · rw [hperformer, List.countP_append, List.countP_singleton]
    exact hexports
  · rw [houtcomes, h.outcomes_eq, List.map_append, List.reverse_append]
    rfl
  · rw [hresult, h.result_eq, htext, List.flatMap_append, List.flatMap_singleton, List.append_assoc]
  · rw [hnotes, h.noteText_eq, hnote, List.flatMap_append, List.flatMap_singleton,
      List.append_assoc]

/-- Along a run every token is accounted for, in the order of the tokens. -/
theorem performAll (h : p.HasExported x result notes exports) {tokens : List Token}
    (hbroken : (p.performAll tokens).isBroken = false) : ∃ more,
      x.AccountsFor tokens more ∧
        (p.performAll tokens).HasExported x result notes (exports ++ more) := by
  induction tokens generalizing p exports with
  | nil => exact ⟨[], .nil, by rwa [List.append_nil]⟩
  | cons token tokens ih =>
    obtain ⟨e, haccounts, hexported⟩ := h.perform (isBroken_of_performAll hbroken)
    obtain ⟨more, hmore, hrest⟩ := ih hexported hbroken
    exact ⟨e :: more, .cons haccounts hmore, by rwa [List.append_assoc] at hrest⟩

/-- After the last token the foot and the closing note follow. -/
theorem finish (h : p.HasExported x result notes exports) (hbroken : p.finish.isBroken = false) :
    p.finish.transcript.result.toList =
        result ++ exports.flatMap (fun e => e.text.toList) ++ x.foot ∧
      p.finish.transcript.noteText.toList =
        notes ++ exports.flatMap (fun e => e.outcome.exportNote.toList) ++
          x.closingNote (exports.countP fun e => e.outcome.isSuccess) := by
  obtain ⟨hfoot, hnote⟩ := h.performer.finish
  refine ⟨?_, ?_⟩
  · rw [Progress.finish, (toList_result_write hbroken).2, h.result_eq, hfoot]
  · rw [Progress.finish, toList_noteText_write hbroken, h.noteText_eq, hnote]

end Progress.HasExported

theorem Exporting.AccountsFor.serials_eq {x : Exporting} {tokens : List Token}
    {exports : List Exportation} (h : x.AccountsFor tokens exports) :
    (exports.map Exportation.outcome).map Outcome.serial = tokens.map Token.serial := by
  rw [List.map_map, ← List.forall₂_eq_eq_eq, List.forall₂_map_left_iff, List.forall₂_map_right_iff]
  exact h.flip.imp fun _ _ haccounts => Accounts.serial_eq haccounts

/-- The texts of the successes are key packages, if tokens are written to a container. -/
theorem Exporting.AccountsFor.exists_packages {x : Exporting} {tokens : List Token}
    {exports : List Exportation} (h : x.AccountsFor tokens exports)
    (hformat : x.format = .container) : ∃ packages : List Packaged,
      exports.flatMap (fun e => e.text.toList) = render (packagesMarks packages) ∧
        packages.length = exports.countP fun e => e.outcome.isSuccess := by
  induction h with
  | nil => exact ⟨[], rfl, rfl⟩
  | @cons token e tokens exports haccounts _ ih =>
    obtain ⟨packages, htext, hlength⟩ := ih
    obtain ⟨outcome, text⟩ := e
    rw [List.flatMap_cons, List.countP_cons, htext, ← hlength]
    cases haccounts with
    | succeeded htakes hencodes =>
      rw [Encodes, hformat] at hencodes
      obtain ⟨p, -, -, -, rfl⟩ := hencodes
      refine ⟨p :: packages, ?_, rfl⟩
      show p.texts.text.toList ++ render (packagesMarks packages) =
        render (packageMarks p ++ packagesMarks packages)
      rw [render_append, toList_text]
    | skipped | failed => exact ⟨packages, rfl, rfl⟩

namespace Task

variable {task : Task} {around : Circumstances} {entropy : Entropy} {transcript : Transcript}
  {store : Store} {format : ExportFormat} {inBase32 : Bool}

end Task

end TokenInventory
