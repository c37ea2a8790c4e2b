import TokenInventory.Proofs.Calendar.Range
import TokenInventory.Selection.Basic

/-!
# When the last authentication decides

The check of the last authentication asks for an instant of the calendar that lies the age after it.
The instant that a stored text stands for is in the calendar, but the one after it need not be: the
check is undecided exactly if the calendar ends within the age (`Selection.accepts?_eq_none_iff`).
-/

namespace TokenInventory

theorem Age.hours_le (age : Age) : age.hours ≤ maxAge * (24 * 365) := by
  refine Nat.mul_le_mul age.amount_le ?_
  cases age.unit <;> decide

/-- The instant of the last authentication of a token, if it can be read. -/
def Token.authenticatedAt? (zone : Zone) (token : Token) : Option Instant :=
  token.lastAuthentication?.bind fun s => readStoredInstant zone .universalTime s.toList

theorem Token.inCalendar_of_authenticatedAt? {zone : Zone} {token : Token} {instant : Instant}
    (h : token.authenticatedAt? zone = some instant) :
    Instant.inCalendar instant.seconds = true := by
  obtain ⟨text, -, hread⟩ := Option.bind_eq_some_iff.1 h
  exact inCalendar_of_readStoredInstant hread

namespace Selection

variable (around : Circumstances) (users : List User) (selection : Selection) (token : Token)

theorem isRecent?_eq_none_iff (age : Age) : isRecent? around age token = none ↔
    ∃ instant ∈ token.authenticatedAt? around.zone,
      (lastDay + 1) * secondsPerDay ≤ instant.seconds + 3600 * (age.hours : Int) := by
  rw [isRecent?, ← Token.authenticatedAt?]
  cases hread : token.authenticatedAt? around.zone with
  | none => simp
  | some instant =>
    have hin := Token.inCalendar_of_authenticatedAt? hread
    simp only [Age.isNewer?, Option.map_eq_none_iff, Instant.addHours?_eq_none_iff hin,
      Option.mem_some_iff, exists_eq_left']

theorem undecided_iff : selection.accepts? around users token = none ↔
    ∃ age ∈ selection.lastAuthentication, ∃ instant ∈ token.authenticatedAt? around.zone,
      (lastDay + 1) * secondsPerDay ≤ instant.seconds + 3600 * (age.hours : Int) := by
  rw [accepts?]
  cases selection.lastAuthentication with
  | none => simp
  | some age =>
    rw [Option.map_eq_none_iff, isRecent?_eq_none_iff]
    simp

/-- Whether a token is selected is undecided exactly if the calendar ends before the age of the
selection has passed since the last authentication of the token. There is such an age exactly if the
last authentication lies in the last hundred thousand years of the calendar, each of 365 days. -/
theorem accepts?_eq_none_iff :
    (selection.accepts? around users token = none ↔
      ∃ age ∈ selection.lastAuthentication, ∃ instant ∈ token.authenticatedAt? around.zone,
        (lastDay + 1) * secondsPerDay ≤ instant.seconds + 3600 * (age.hours : Int)) ∧
    ((∃ s age, Age.ofText? s = some age ∧
        { selection with lastAuthentication := some age }.accepts? around users token = none) ↔
      ∃ instant ∈ token.authenticatedAt? around.zone,
        (lastDay + 1 - 365 * maxAge) * secondsPerDay ≤ instant.seconds) := by
  refine ⟨undecided_iff around users selection token, ?_, ?_⟩
  · rintro ⟨s, age, -, hundecided⟩
    obtain ⟨_, ⟨⟩, instant, hread, hend⟩ := (undecided_iff ..).1 hundecided
    have hhours := age.hours_le
    refine ⟨instant, hread, ?_⟩
    unfold secondsPerDay maxAge at *
    omega
  · rintro ⟨instant, hread, hend⟩
    let oldest : Age := ⟨maxAge, .years, Nat.le_refl _⟩
    have hhours : oldest.hours = maxAge * (24 * 365) := rfl
    refine ⟨['1', '0', '0', '0', '0', '0', 'y'], oldest, by decide, ?_⟩
    refine (undecided_iff ..).2 ⟨oldest, rfl, instant, hread, ?_⟩
    rw [hhours]
    unfold secondsPerDay maxAge at *
    omega

/-- The last authentication decides for any age if it lies before the year 162209. -/
example : daysToYear 162209 ≤ lastDay + 1 - 365 * maxAge := by decide

/-- A token that is said to have authenticated on the last day of the calendar cannot be checked for
an age of a day. -/
theorem accepts?_eq_none_lastDay :
    ∃ age, Age.ofText? ['1', 'd'] = some age ∧
      { lastAuthentication := some age : Selection }.accepts? ⟨.universal, ⟨0, 0⟩⟩ []
        { serial := "A1", tokenType := "hotp"
          info := SortedMap.empty.insert Token.lastAuthenticationKey "+262142-12-31" } = none :=
  ⟨⟨1, .days, by decide⟩, by decide, by decide +kernel⟩

end Selection

end TokenInventory
