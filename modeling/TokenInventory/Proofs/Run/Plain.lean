import Mathlib.Tactic.SplitIfs
import TokenInventory.Run.Basic

/-!
# Runs apart from their events

What a run does to the store and writes to its channels does not depend on the events it logs. The
`plain` form of a progress leaves out its events and its counters; performing an action respects
plain forms (`Progress.performAll_congr`), and writing events does not show in them
(`Progress.plain_write_events`). A broken channel stops everything
(`Progress.performAll_of_isBroken`).
-/

namespace TokenInventory

/-- Whether an output is an event. -/
def Output.isEvent : Output → Bool
  | .note (.event _) => true
  | _ => false

/-- Whether a note is for the channel of notes and not for the log. -/
def Note.isText : Note → Bool
  | .text _ => true
  | .event _ => false

namespace Transcript

/-- The transcript without its events. -/
def withoutEvents (t : Transcript) : Transcript :=
  { t with notes := t.notes.filter Note.isText }

variable {t u : Transcript}

theorem write_of_isBroken (h : t.isBroken = true) (output : Output) : t.write output = t := by
  simp only [write, h, if_true]

theorem withoutEvents_write (t : Transcript) (output : Output) :
    (t.write output).withoutEvents =
      if output.isEvent then t.withoutEvents else t.withoutEvents.write output := by
  cases hb : t.isBroken with
  | true =>
    rw [write_of_isBroken hb, write_of_isBroken (show t.withoutEvents.isBroken = true from hb),
      ite_self]
  | false =>
    rcases output with s | (s | e)
    · simp only [write, withoutEvents, takes, hb, Output.isEvent, Bool.false_eq_true, if_false]
      split_ifs <;> rfl
    · simp only [write, withoutEvents, hb, Output.isEvent, Bool.false_eq_true, if_false]
      rfl
    · simp only [write, withoutEvents, hb, Output.isEvent, Bool.false_eq_true, if_false, if_true]
      rfl

theorem write_congr (h : t.withoutEvents = u.withoutEvents) (output : Output) :
    (t.write output).withoutEvents = (u.write output).withoutEvents := by
  rw [withoutEvents_write, withoutEvents_write, h]

theorem writeAll_congr (h : t.withoutEvents = u.withoutEvents) (outputs : List Output) :
    (t.writeAll outputs).withoutEvents = (u.writeAll outputs).withoutEvents := by
  induction outputs generalizing t u with
  | nil => exact h
  | cons output outputs ih => exact ih (write_congr h output)

theorem withoutEvents_writeAll_events (t : Transcript) (events : List Log.Event) :
    (t.writeAll (events.map .event)).withoutEvents = t.withoutEvents := by
  induction events generalizing t with
  | nil => rfl
  | cons e events ih => exact (ih _).trans (withoutEvents_write t (.event e))

theorem isBroken_congr (h : t.withoutEvents = u.withoutEvents) : t.isBroken = u.isBroken := by
  show t.withoutEvents.isBroken = u.withoutEvents.isBroken
  rw [h]

theorem result_congr (h : t.withoutEvents = u.withoutEvents) : t.result = u.result := by
  show t.withoutEvents.result = u.withoutEvents.result
  rw [h]

theorem noteText_withoutEvents (t : Transcript) : t.withoutEvents.noteText = t.noteText := by
  rw [noteText, noteText, withoutEvents, List.foldl_filter]
  congr 1
  funext later n
  cases n <;> rfl

theorem noteText_congr (h : t.withoutEvents = u.withoutEvents) : t.noteText = u.noteText := by
  rw [← noteText_withoutEvents, h, noteText_withoutEvents]

/-- Nothing more is written once the channel is broken. -/
theorem writeAll_of_isBroken (h : t.isBroken = true) (outputs : List Output) :
    t.writeAll outputs = t := by
  induction outputs with
  | nil => rfl
  | cons output outputs ih =>
    rw [writeAll, List.foldl_cons, write_of_isBroken h]
    exact ih

end Transcript

namespace Progress

/-- The progress without its events and counters. -/
def plain (p : Progress) : Progress :=
  { p with transcript := p.transcript.withoutEvents, counters := {} }

variable {p q : Progress}

theorem plain_eq_iff : p.plain = q.plain ↔ p.store = q.store ∧ p.performer = q.performer ∧
    p.transcript.withoutEvents = q.transcript.withoutEvents ∧ p.outcomes = q.outcomes ∧
      p.tally = q.tally := by
  simp only [plain, Progress.mk.injEq, true_and]

theorem isBroken_congr (h : p.plain = q.plain) : p.isBroken = q.isBroken :=
  Transcript.isBroken_congr (plain_eq_iff.1 h).2.2.1

theorem write_congr (h : p.plain = q.plain) (outputs : List Output) :
    (p.write outputs).plain = (q.write outputs).plain := by
  obtain ⟨hstore, hperformer, htranscript, houtcomes⟩ := plain_eq_iff.1 h
  exact plain_eq_iff.2
    ⟨hstore, hperformer, Transcript.writeAll_congr htranscript outputs, houtcomes⟩

theorem plain_write_events (p : Progress) (events : List Log.Event) :
    (p.write (events.map .event)).plain = p.plain :=
  plain_eq_iff.2 ⟨rfl, rfl, Transcript.withoutEvents_writeAll_events _ _, rfl, rfl⟩

theorem record_congr (h : p.plain = q.plain) (outcome : Outcome) :
    (p.record outcome).plain = (q.record outcome).plain := by
  obtain ⟨hstore, hperformer, htranscript, houtcomes, htally⟩ := plain_eq_iff.1 h
  exact plain_eq_iff.2 ⟨hstore, hperformer, htranscript, congrArg (outcome :: ·) houtcomes,
    congrArg (·.record outcome) htally⟩

theorem perform_congr (h : p.plain = q.plain) (token : Token) :
    (p.perform token).plain = (q.perform token).plain := by
  obtain ⟨hstore, hperformer, htranscript, houtcomes⟩ := plain_eq_iff.1 h
  unfold perform
  rw [isBroken_congr h, hstore, hperformer]
  generalize q.performer.step q.store token = step
  have hwritten : ({ p with store := step.store, performer := step.performer }.write
      step.outputs).plain = ({ q with store := step.store, performer := step.performer }.write
      step.outputs).plain := by
    refine write_congr ?_ _
    exact plain_eq_iff.2 ⟨rfl, rfl, htranscript, houtcomes⟩
  dsimp only
  rw [isBroken_congr hwritten]
  generalize { p with store := step.store, performer := step.performer }.write step.outputs = p'
    at hwritten
  generalize { q with store := step.store, performer := step.performer }.write step.outputs = q'
    at hwritten
  have hrecorded := record_congr hwritten step.outcome
  split_ifs
  · exact h
  · exact hwritten
  · exact write_congr hrecorded _
  · exact hrecorded

theorem performAll_congr (h : p.plain = q.plain) (tokens : List Token) :
    (p.performAll tokens).plain = (q.performAll tokens).plain := by
  induction tokens generalizing p q with
  | nil => exact h
  | cons token tokens ih => exact ih (perform_congr h token)

theorem performAll_append (p : Progress) (tokens tokens' : List Token) :
    p.performAll (tokens ++ tokens') = (p.performAll tokens).performAll tokens' :=
  List.foldl_append

theorem write_of_isBroken (h : p.isBroken = true) (outputs : List Output) :
    p.write outputs = p := by
  unfold write
  rw [Transcript.writeAll_of_isBroken h]

theorem performAll_of_isBroken (h : p.isBroken = true) (tokens : List Token) :
    p.performAll tokens = p := by
  induction tokens with
  | nil => rfl
  | cons token tokens ih =>
    rw [performAll, List.foldl_cons, perform, if_pos h]
    exact ih

/-- A channel that is not broken at the end was not broken before. -/
theorem isBroken_of_performAll {tokens : List Token} (h : (p.performAll tokens).isBroken = false) :
    p.isBroken = false := by
  refine Bool.eq_false_iff.2 fun hb => ?_
  rw [performAll_of_isBroken hb, hb] at h
  cases h

end Progress

end TokenInventory
