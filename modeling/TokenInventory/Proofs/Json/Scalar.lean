import TokenInventory.Json.Reader
import TokenInventory.Json.Writer
import TokenInventory.Proofs.Text.Decimal

/-!
# Texts and numbers in JSON

A text is read back from its characters with their escapes (`readText_writeText`), and an integer of
64 bits from its digits (`readNumber_writeInt`), whatever follows them; only a number must not be
followed by more of a number (`EndsNumber`).
-/

namespace TokenInventory.Json

/-! ## Blanks -/

theorem skipSpace_newLine (depth : Nat) (s : List Char) :
    skipSpace (newLine depth ++ s) = skipSpace s := by
  refine List.dropWhile_append_of_pos fun c hc => ?_
  rcases List.mem_cons.1 hc with rfl | hc
  · rfl
  · rw [List.eq_of_mem_replicate hc]
    rfl

theorem skipSpace_cons {c : Char} (h : isSpace c = false) (s : List Char) :
    skipSpace (c :: s) = c :: s := by
  rw [skipSpace, List.dropWhile_cons_of_neg (by rw [h]; exact Bool.false_ne_true)]

/-! ## Texts -/

theorem readPieces_cons {c : Char} (hquote : c ≠ '"') (hslash : c ≠ '\\') (hlow : ¬c.toNat < 0x20)
    (s : List Char) :
    readPieces (c :: s) = (readPieces s).map fun (pieces, rest) => (.char c :: pieces, rest) := by
  rw [readPieces.eq_def]
  simp only [Option.map_eq_bind]
  split
  case h_6 heq =>
    cases heq
    rw [if_neg hlow]
    rfl
  all_goals simp_all

/-- A character is read as itself or, if it is a control character, perhaps as a unit. -/
theorem readPieces_escapeChar (c : Char) (s : List Char) :
    ∃ piece, (piece = .char c ∨ piece = .unit c.toNat ∧ c.toNat < 0x20) ∧
      readPieces (escapeChar c ++ s) =
        (readPieces s).map fun (pieces, rest) => (piece :: pieces, rest) := by
  unfold escapeChar
  split
  case h_8 hquote hslash _ _ _ _ _ =>
    split
    · next hlow =>
      refine ⟨.unit c.toNat, .inr ⟨rfl, hlow⟩, ?_⟩
      have hunit : ∀ n < 0x20,
          unit? '0' '0' (Hex.digit (n / 16)) (Hex.digit (n % 16)) = some n := by decide
      simp only [List.cons_append, List.nil_append, readPieces, hunit _ hlow, Option.bind_eq_bind,
        Option.bind_some, Option.map_eq_bind]
      rfl
    · next hlow =>
      refine ⟨.char c, .inl rfl, ?_⟩
      rw [List.singleton_append, readPieces_cons hquote hslash hlow]
  all_goals
    refine ⟨_, .inl rfl, ?_⟩
    rw [Option.map_eq_bind]
    rfl

theorem joinPieces_unit {n : Nat} (h : n < 0x20) (pieces : List Piece) :
    joinPieces (.unit n :: pieces) = (joinPieces pieces).map (Char.ofNat n :: ·) := by
  have hhigh : ¬(0xD800 ≤ n ∧ n < 0xDC00) := by omega
  have hlow : ¬(0xDC00 ≤ n ∧ n < 0xE000) := by omega
  have hhalf : ¬(0xD800 ≤ n ∧ n < 0xE000) := by omega
  rcases pieces with _ | ⟨_ | _, pieces⟩
  · simp only [joinPieces, if_neg hhalf]
  · simp only [joinPieces, if_neg hhalf]
  · simp only [joinPieces, if_neg hhigh, if_neg hlow]

theorem readPieces_flatMap (cs rest : List Char) :
    ∃ pieces, readPieces (cs.flatMap escapeChar ++ '"' :: rest) = some (pieces, rest) ∧
      joinPieces pieces = some cs := by
  induction cs with
  | nil => exact ⟨[], by rw [List.flatMap_nil, List.nil_append, readPieces], rfl⟩
  | cons c cs ih =>
    obtain ⟨pieces, hread, hjoin⟩ := ih
    obtain ⟨piece, hpiece, hchar⟩ :=
      readPieces_escapeChar c (cs.flatMap escapeChar ++ '"' :: rest)
    refine ⟨piece :: pieces, ?_, ?_⟩
    · rw [List.flatMap_cons, List.append_assoc, hchar, hread]
      rfl
    · rcases hpiece with rfl | ⟨rfl, hlow⟩
      · rw [joinPieces, hjoin]
        rfl
      · rw [joinPieces_unit hlow, hjoin, Char.ofNat_toNat]
        rfl

/-- A text is read back up to its closing quote. -/
theorem readText_writeText (s : String) (rest : List Char) :
    ∃ written, writeText s ++ rest = '"' :: written ∧
      readText written = some (some s, rest) := by
  obtain ⟨pieces, hread, hjoin⟩ := readPieces_flatMap s.toList rest
  refine ⟨s.toList.flatMap escapeChar ++ '"' :: rest, by simp [writeText], ?_⟩
  simp only [readText, hread, Option.map_some, hjoin, String.ofList_toList]

/-! ## Numbers -/

/-- Whether a number that stands before a text ends there. -/
def EndsNumber (s : List Char) : Prop :=
  ∀ c ∈ s.head?, c.isDigit = false ∧ c ≠ '.' ∧ c ≠ 'e' ∧ c ≠ 'E'

variable {rest : List Char}

theorem readRun_append {digits : List Char} (hdigits : ∀ c ∈ digits, c.isDigit = true)
    (hne : digits ≠ []) (hrest : EndsNumber rest) :
    readRun (digits ++ rest) = some (digits, rest) := by
  have htake : rest.takeWhile Char.isDigit = [] := by
    cases rest with
    | nil => rfl
    | cons c s => simp [(hrest c rfl).1]
  have hdrop : rest.dropWhile Char.isDigit = rest := by
    cases rest with
    | nil => rfl
    | cons c s => simp [(hrest c rfl).1]
  rw [readRun, List.takeWhile_append_of_pos hdigits, List.dropWhile_append_of_pos hdigits, htake,
    hdrop, List.append_nil]
  cases digits with
  | nil => exact absurd rfl hne
  | cons c s => rfl

theorem readFraction_of_endsNumber (h : EndsNumber rest) : readFraction rest = some ([], rest) := by
  cases rest with
  | nil => rfl
  | cons c s =>
    have := (h c rfl).2.1
    simp [readFraction, this]

theorem readExponent_of_endsNumber (h : EndsNumber rest) : readExponent rest = some ([], rest) := by
  cases rest with
  | nil => rfl
  | cons c s =>
    obtain ⟨-, -, he, hE⟩ := h c rfl
    simp [readExponent, he, hE]

theorem readUnsigned_toDigits (negative : Bool) (n : Nat) (h : EndsNumber rest) :
    readUnsigned negative (Nat.toDigits 10 n ++ rest) =
      some (wholeNumber negative (Nat.toDigits 10 n), rest) := by
  have hzero : ¬((Nat.toDigits 10 n).head? = some '0' ∧ Nat.toDigits 10 n ≠ ['0']) :=
    fun hz => hz.2 (Text.toDigits_eq_of_head? hz.1)
  simp [readUnsigned, readRun_append Text.isDigit_of_mem_toDigits Nat.toDigits_ne_nil h,
    readFraction_of_endsNumber h, readExponent_of_endsNumber h, hzero]

theorem readNumber_writeInt {n : Int} (hn : FitsWord n) (h : EndsNumber rest) :
    readNumber (Text.writeInt n ++ rest) = some (int n, rest) := by
  cases n with
  | ofNat n =>
    obtain ⟨c, s, hc, hdigits⟩ := Text.exists_cons_toDigits n
    have hminus : c ≠ '-' := by rintro rfl; cases hc
    have hread : readNumber (Nat.toDigits 10 n ++ rest) =
        readUnsigned false (Nat.toDigits 10 n ++ rest) := by
      rw [hdigits, List.cons_append]
      simp [readNumber, hminus]
    have hfits : FitsWord (n : Int) := hn
    rw [Text.writeInt, hread, readUnsigned_toDigits false n h, wholeNumber]
    simp [Text.readDigits_toDigits, hfits]
  | negSucc n =>
    have hfits : FitsWord (-((n + 1 : Nat) : Int)) := hn
    rw [Text.writeInt, List.cons_append, readNumber, readUnsigned_toDigits true (n + 1) h,
      wholeNumber]
    have hne : n + 1 ≠ 0 := Nat.succ_ne_zero n
    simp only [Text.readDigits_toDigits, Option.getD_some, if_true, hfits, true_and, hne,
      not_false_eq_true, implies_true, ne_eq]
    rfl

end TokenInventory.Json
