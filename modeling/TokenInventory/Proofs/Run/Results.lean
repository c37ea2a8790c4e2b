import TokenInventory.Proofs.Run.Plain

/-!
# What is in the results

As long as the channel of the results takes everything, the results are what they were with the
texts of all outputs at the end (`Transcript.toList_result_writeAll`). Without a limit it takes
everything (`Transcript.isBroken_writeAll`). What breaks it is not among the results
(`Transcript.result_write_of_isBroken`).
-/

namespace TokenInventory

/-- What an output adds to the results. -/
def Output.resultChars : Output → List Char
  | .result s => s.toList
  | .note _ => []

/-- What outputs add to the results. -/
def resultChars (outputs : List Output) : List Char :=
  outputs.flatMap Output.resultChars

theorem resultChars_append (outputs outputs' : List Output) :
    resultChars (outputs ++ outputs') = resultChars outputs ++ resultChars outputs' :=
  List.flatMap_append

theorem resultChars_flatMap_resultLine (lines : List String) :
    resultChars (lines.flatMap Output.resultLine) = lines.flatMap fun line =>
      (Text.line line).toList := by
  rw [resultChars, List.flatMap_assoc]
  refine congrArg (lines.flatMap ·) (funext fun line => ?_)
  simp [Output.resultLine, Output.resultChars, Text.line]

namespace Transcript

variable {t : Transcript}

theorem toList_result_write {output : Output} (h : (t.write output).isBroken = false) :
    t.isBroken = false ∧
      (t.write output).result.toList = t.result.toList ++ output.resultChars := by
  cases hb : t.isBroken with
  | true =>
    rw [write_of_isBroken hb, hb] at h
    cases h
  | false =>
    refine ⟨rfl, ?_⟩
    unfold write at h ⊢
    rcases output with s | n
    · cases htakes : t.takes s <;> simp [hb, htakes, Output.resultChars] at h ⊢
    · simp [hb, Output.resultChars]

/-- What is written is added to the results as long as the channel takes it. -/
theorem toList_result_writeAll {outputs : List Output}
    (h : (t.writeAll outputs).isBroken = false) : t.isBroken = false ∧
      (t.writeAll outputs).result.toList = t.result.toList ++ resultChars outputs := by
  induction outputs generalizing t with
  | nil => exact ⟨h, by simp [writeAll, resultChars]⟩
  | cons output outputs ih =>
    obtain ⟨hfirst, hrest⟩ := ih h
    obtain ⟨hstart, hwrite⟩ := toList_result_write hfirst
    refine ⟨hstart, hrest.trans ?_⟩
    rw [hwrite, List.append_assoc]
    rfl

theorem result_write_note (t : Transcript) (n : Note) : (t.write (.note n)).result = t.result := by
  cases hb : t.isBroken <;> simp [write, hb]

/-- What breaks the channel is not among the results. -/
theorem result_write_of_isBroken {output : Output} (h : (t.write output).isBroken = true) :
    (t.write output).result = t.result := by
  rcases output with s | n
  · cases hb : t.isBroken <;> cases htakes : t.takes s <;> simp [write, hb, htakes] at h ⊢
  · exact t.result_write_note n

/-- A channel without a limit does not break. -/
theorem isBroken_writeAll (hlimit : t.limit = none) (hbroken : t.isBroken = false)
    (outputs : List Output) :
    (t.writeAll outputs).limit = none ∧ (t.writeAll outputs).isBroken = false := by
  induction outputs generalizing t with
  | nil => exact ⟨hlimit, hbroken⟩
  | cons output outputs ih =>
    have hwrite : (t.write output).limit = none ∧ (t.write output).isBroken = false := by
      cases output <;> simp [write, takes, hbroken, hlimit]
    exact ih hwrite.1 hwrite.2

end Transcript

namespace Progress

variable {p : Progress}

theorem toList_result_write {outputs : List Output} (h : (p.write outputs).isBroken = false) :
    p.isBroken = false ∧ (p.write outputs).transcript.result.toList =
      p.transcript.result.toList ++ resultChars outputs :=
  Transcript.toList_result_writeAll h

/-- What performing an action on a token does as long as everything about it can be written. -/
theorem perform_of_isBroken_eq_false {token : Token} (h : (p.perform token).isBroken = false) :
    p.isBroken = false ∧
      (p.perform token).performer = (p.performer.step p.store token).performer ∧
      (p.perform token).store = (p.performer.step p.store token).store ∧
      (p.perform token).outcomes = (p.performer.step p.store token).outcome :: p.outcomes ∧
      (p.perform token).transcript.result.toList =
        p.transcript.result.toList ++ resultChars (p.performer.step p.store token).outputs := by
  unfold perform at h ⊢
  dsimp only at h ⊢
  generalize p.performer.step p.store token = step at h ⊢
  split_ifs at h ⊢ with hp hwritten hfailure
  · exact absurd hp (by rw [h]; exact Bool.false_ne_true)
  · exact absurd hwritten (by rw [h]; exact Bool.false_ne_true)
  · obtain ⟨-, hevent⟩ := toList_result_write h
    rw [Bool.not_eq_true] at hp hwritten
    refine ⟨hp, rfl, rfl, rfl, hevent.trans ?_⟩
    rw [show resultChars [.event step.outcome.failureEvent] = [] from rfl, List.append_nil]
    exact (toList_result_write hwritten).2
  · rw [Bool.not_eq_true] at hp hwritten
    exact ⟨hp, rfl, rfl, rfl, (toList_result_write hwritten).2⟩

/-- If one thing is written about a token, its outcome counts exactly if that is among the results
or notes. -/
theorem perform_cases_of_single {token : Token} {output : Output}
    (h : (p.performer.step p.store token).outputs = [output]) :
    (p.perform token).outcomes = p.outcomes ∧
        (p.perform token).transcript.result = p.transcript.result ∨
      (p.perform token).outcomes = (p.performer.step p.store token).outcome :: p.outcomes ∧
        (p.perform token).transcript.result.toList =
          p.transcript.result.toList ++ output.resultChars := by
  unfold perform
  dsimp only
  generalize p.performer.step p.store token = step at h ⊢
  split_ifs with hp hwritten hfailure
  · exact .inl ⟨rfl, rfl⟩
  · rw [h] at hwritten ⊢
    exact .inl ⟨rfl, Transcript.result_write_of_isBroken hwritten⟩
  · -- the event of the failure is only noted
    rw [Bool.not_eq_true] at hwritten
    refine .inr ⟨rfl, ?_⟩
    rw [h] at hwritten ⊢
    exact (congrArg String.toList (Transcript.result_write_note _ _)).trans
      (Transcript.toList_result_write hwritten).2
  · rw [Bool.not_eq_true] at hwritten
    rw [h] at hwritten ⊢
    exact .inr ⟨rfl, (Transcript.toList_result_write hwritten).2⟩

/-- An action does not break a channel without a limit. -/
theorem isBroken_perform (hlimit : p.transcript.limit = none)
    (hbroken : p.isBroken = false) (token : Token) :
    (p.perform token).transcript.limit = none ∧ (p.perform token).isBroken = false := by
  have hwrite (q : Progress) (h : q.transcript.limit = none ∧ q.isBroken = false)
      (outputs : List Output) :
      (q.write outputs).transcript.limit = none ∧ (q.write outputs).isBroken = false :=
    Transcript.isBroken_writeAll h.1 h.2 outputs
  unfold perform
  dsimp only
  split_ifs
  · exact ⟨hlimit, hbroken⟩
  · exact hwrite _ ⟨hlimit, hbroken⟩ _
  · exact hwrite _ (hwrite _ ⟨hlimit, hbroken⟩ _) _
  · exact hwrite _ ⟨hlimit, hbroken⟩ _

theorem isBroken_performAll (hlimit : p.transcript.limit = none)
    (hbroken : p.isBroken = false) (tokens : List Token) :
    (p.performAll tokens).transcript.limit = none ∧ (p.performAll tokens).isBroken = false := by
  induction tokens generalizing p with
  | nil => exact ⟨hlimit, hbroken⟩
  | cons token tokens ih =>
    obtain ⟨hlimit, hbroken⟩ := isBroken_perform hlimit hbroken token
    exact ih hlimit hbroken

end Progress

end TokenInventory
