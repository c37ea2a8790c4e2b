import TokenInventory.Proofs.Run.Results

/-!
# What is in the notes

As long as the channel of the results takes everything, the notes are what they were with the texts
of all outputs at the end (`Transcript.toList_noteText_writeAll`). So performing an action on a
token adds what its step notes (`Progress.toList_noteText_perform`); the event of a failure is no
text.
-/

namespace TokenInventory

/-- The text of a note. -/
def Note.chars : Note → List Char
  | .text s => s.toList
  | .event _ => []

/-- What an output adds to the notes. -/
def Output.noteChars : Output → List Char
  | .result _ => []
  | .note n => n.chars

/-- What outputs add to the notes. -/
def noteChars (outputs : List Output) : List Char :=
  outputs.flatMap Output.noteChars

theorem noteChars_flatMap_resultLine (lines : List String) :
    noteChars (lines.flatMap Output.resultLine) = [] := by
  rw [noteChars, List.flatMap_assoc]
  exact List.flatMap_eq_nil_iff.2 fun _ _ => rfl

namespace Transcript

variable {t : Transcript}

/-- The texts of the notes, the earliest first. -/
theorem toList_noteText (t : Transcript) :
    t.noteText.toList = t.notes.reverse.flatMap Note.chars := by
  have hfold : ∀ (notes : List Note) (later : String),
      (notes.foldl (fun later n => match n with | .text s => s ++ later | .event _ => later)
        later).toList = notes.reverse.flatMap Note.chars ++ later.toList := by
    intro notes
    induction notes with
    | nil => exact fun later => rfl
    | cons n notes ih =>
      intro later
      rw [List.foldl_cons, ih, List.reverse_cons, List.flatMap_append, List.append_assoc]
      cases n <;> simp [Note.chars]
  exact (hfold t.notes "").trans (List.append_nil _)

theorem toList_noteText_write {output : Output} (h : (t.write output).isBroken = false) :
    (t.write output).noteText.toList = t.noteText.toList ++ output.noteChars := by
  have hb := (toList_result_write h).1
  rw [toList_noteText, toList_noteText]
  unfold write at h ⊢
  rcases output with s | n
  · cases htakes : t.takes s <;> simp [hb, htakes, Output.noteChars]
  · simp [hb, Output.noteChars]

/-- What is noted is added to the notes as long as the channel of the results takes everything. -/
theorem toList_noteText_writeAll {outputs : List Output}
    (h : (t.writeAll outputs).isBroken = false) :
    (t.writeAll outputs).noteText.toList = t.noteText.toList ++ noteChars outputs := by
  induction outputs generalizing t with
  | nil => exact (List.append_nil _).symm
  | cons output outputs ih =>
    have hfirst : (t.write output).isBroken = false :=
      (toList_result_writeAll (t := t.write output) h).1
    refine (ih h).trans ?_
    rw [toList_noteText_write hfirst, List.append_assoc]
    rfl

end Transcript

namespace Progress

theorem toList_noteText_write {p : Progress} {outputs : List Output}
    (h : (p.write outputs).isBroken = false) : (p.write outputs).transcript.noteText.toList =
      p.transcript.noteText.toList ++ noteChars outputs :=
  Transcript.toList_noteText_writeAll h

/-- What performing an action on a token notes as long as everything about it can be written. -/
theorem toList_noteText_perform {p : Progress} {token : Token}
    (h : (p.perform token).isBroken = false) : (p.perform token).transcript.noteText.toList =
      p.transcript.noteText.toList ++ noteChars (p.performer.step p.store token).outputs := by
  unfold perform at h ⊢
  dsimp only at h ⊢
  generalize p.performer.step p.store token = step at h ⊢
  split_ifs at h ⊢ with hp hwritten hfailure
  · exact absurd hp (by rw [h]; exact Bool.false_ne_true)
  · exact absurd hwritten (by rw [h]; exact Bool.false_ne_true)
  · rw [Bool.not_eq_true] at hwritten
    refine (toList_noteText_write h).trans ?_
    rw [show noteChars [.event step.outcome.failureEvent] = [] from rfl, List.append_nil]
    exact toList_noteText_write hwritten
  · rw [Bool.not_eq_true] at hwritten
    exact toList_noteText_write hwritten

end Progress

end TokenInventory
