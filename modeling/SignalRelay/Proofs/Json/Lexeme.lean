import SignalRelay.Json.Lexeme
import SignalRelay.Json.Printer
import SignalRelay.Proofs.Json.WellFormed

namespace SignalRelay

/-!
# Lexemes read back

The octets of a character that is not escaped stand for themselves in a string.  The reader of
numbers undoes the writer of integers; a number only ends where something follows that cannot
continue it.
-/

namespace Lexeme

open Json Utf8

/-- A bound that leaves room for one round more is the next after one that leaves room for
the others. -/
theorem exists_fewer
    {rounds bound : Nat}
    (enough : rounds + 1 ≤ bound) :
    ∃ fewer, bound = fewer + 1 ∧ rounds ≤ fewer := by
  cases bound with
  | zero =>
      cases enough
  | succ fewer =>
      exact ⟨fewer, rfl, Nat.le_of_succ_le_succ enough⟩

/-! ## Strings -/

/-- An octet that stands for itself in a string. -/
def IsPlain (octet : UInt8) : Prop :=
  octet ≠ '"'.toUInt8 ∧ octet ≠ '\\'.toUInt8 ∧ ¬octet < 0x20

theorem isPlain_of_marked
    {bits : Nat}
    (marked : 0x80 ≤ bits)
    (octet : bits < 0x100) :
    IsPlain (UInt8.ofNat bits) := by
  have value : (UInt8.ofNat bits).toNat = bits := by
    simpa using Nat.mod_eq_of_lt octet
  refine ⟨?_, ?_, ?_⟩
  · intro same
    have small : bits = 0x22 := value.symm.trans (congrArg UInt8.toNat same)
    omega
  · intro same
    have small : bits = 0x5C := value.symm.trans (congrArg UInt8.toNat same)
    omega
  · rw [UInt8.lt_iff_toNat_lt, value]
    exact Nat.not_lt.mpr (Nat.le_trans (by decide) marked)

/-- The octets of a character that is not escaped stand for themselves. -/
theorem isPlain_of_unescaped
    {c : Char}
    (notQuote : c ≠ '"')
    (notBackslash : c ≠ '\\')
    (notControl : 0x20 ≤ c.toNat) :
    ∀ octet ∈ String.utf8EncodeChar c, IsPlain octet := by
  by_cases ascii : c.toNat < 0x80
  · rw [utf8EncodeChar_ascii ascii]
    intro octet member
    cases List.mem_singleton.mp member
    have value : c.toUInt8.toNat = c.toNat := by
      have fits : c.toNat < 256 := Nat.lt_trans ascii (by decide)
      exact (UInt32.toNat_toUInt8 c.val).trans (Nat.mod_eq_of_lt fits)
    refine ⟨?_, ?_, ?_⟩
    · intro same
      exact notQuote (Char.toNat_inj.mp (value.symm.trans (congrArg UInt8.toNat same)))
    · intro same
      exact notBackslash (Char.toNat_inj.mp (value.symm.trans (congrArg UInt8.toNat same)))
    · rw [UInt8.lt_iff_toNat_lt, value]
      exact Nat.not_lt.mpr notControl
  · have large : ¬c.val.toNat ≤ 0x7F := fun small => ascii (Nat.lt_succ_of_le small)
    intro octet member
    simp only [String.utf8EncodeChar, large, ↓reduceIte] at member
    split at member
    · simp only [List.mem_cons, List.not_mem_nil, or_false] at member
      rcases member with rfl | rfl <;> exact isPlain_of_marked (by omega) (by omega)
    · split at member
      · simp only [List.mem_cons, List.not_mem_nil, or_false] at member
        rcases member with rfl | rfl | rfl <;>
          exact isPlain_of_marked (by omega) (by omega)
      · simp only [List.mem_cons, List.not_mem_nil, or_false] at member
        rcases member with rfl | rfl | rfl | rfl <;>
          exact isPlain_of_marked (by omega) (by omega)

/-- Octets that stand for themselves are taken over one by one. -/
theorem readContent_plain
    {piece : Octets}
    (plain : ∀ octet ∈ piece, IsPlain octet)
    {bound : Nat}
    (enough : piece.length ≤ bound)
    (content rest : Octets) :
    readContent bound content (piece ++ rest) =
      readContent (bound - piece.length) (piece.reverse ++ content) rest := by
  induction piece generalizing bound content with
  | nil =>
      rfl
  | cons octet later inductionHypothesis =>
      obtain ⟨bound, rfl, laterEnough⟩ := exists_fewer enough
      obtain ⟨notQuote, notBackslash, notControl⟩ := plain octet List.mem_cons_self
      have laterPlain := fun other member => plain other (List.mem_cons_of_mem octet member)
      simp only [List.cons_append, readContent, notQuote, notBackslash, notControl,
        ↓reduceIte]
      rw [inductionHypothesis laterPlain laterEnough]
      simp

theorem octetsOf_stringText
    (text : String)
    (rest : Octets) :
    octetsOf (stringText text) ++ rest =
      '"'.toUInt8 :: (octetsOf (text.toList.flatMap escape) ++ '"'.toUInt8 :: rest) := by
  unfold stringText
  rw [octetsOf_append, octetsOf_append, octetsOf_cons_ascii (by decide)]
  simp

/-! ## Numbers -/

/-- What cannot continue a number. -/
def EndsNumber : Octets → Prop
  | [] => True
  | octet :: _ =>
      isDigit octet = false ∧ octet ≠ '.'.toUInt8 ∧ isExponentLetter octet = false

/-- The octets of a decimal numeral. -/
def decimalOctets (value : Nat) : Octets :=
  octetsOf (Nat.toDigits 10 value)

/-- The digits of a decimal numeral, as they are read. -/
def decimalDigits (value : Nat) : List Nat :=
  (decimalOctets value).map digitValue

theorem octetsOf_digitChar :
    ∀ digit < 10,
      octetsOf [Nat.digitChar digit] = [UInt8.ofNat (digit + 0x30)] ∧
        isDigit (UInt8.ofNat (digit + 0x30)) = true ∧
        digitValue (UInt8.ofNat (digit + 0x30)) = digit := by
  decide

theorem decimalOctets_of_lt
    {value : Nat}
    (small : value < 10) :
    decimalOctets value = [UInt8.ofNat (value + 0x30)] := by
  rw [decimalOctets, Nat.toDigits_of_lt_base small]
  exact (octetsOf_digitChar value small).1

theorem decimalOctets_of_le
    {value : Nat}
    (large : 10 ≤ value) :
    decimalOctets value =
      decimalOctets (value / 10) ++ [UInt8.ofNat (value % 10 + 0x30)] := by
  rw [decimalOctets, Nat.toDigits_of_base_le (by decide) large, octetsOf_append,
    (octetsOf_digitChar (value % 10) (Nat.mod_lt value (by decide))).1]
  rfl

theorem isDigit_of_mem_decimalOctets
    (value : Nat) :
    ∀ octet ∈ decimalOctets value, isDigit octet = true := by
  induction value using Nat.strongRecOn with
  | ind value inductionHypothesis =>
      intro octet member
      by_cases small : value < 10
      · rw [decimalOctets_of_lt small] at member
        cases List.mem_singleton.mp member
        exact (octetsOf_digitChar value small).2.1
      · rw [decimalOctets_of_le (Nat.not_lt.mp small)] at member
        rcases List.mem_append.mp member with earlier | last
        · exact inductionHypothesis (value / 10) (by omega) octet earlier
        · cases List.mem_singleton.mp last
          exact (octetsOf_digitChar (value % 10) (Nat.mod_lt value (by decide))).2.1

/-- Only the numeral of zero begins with a zero. -/
theorem head_decimalOctets
    {value : Nat}
    (positive : 0 < value) :
    ∃ first later, decimalOctets value = first :: later ∧ first ≠ '0'.toUInt8 := by
  induction value using Nat.strongRecOn with
  | ind value inductionHypothesis =>
      by_cases small : value < 10
      · refine ⟨_, _, decimalOctets_of_lt small, ?_⟩
        have nonzero : ∀ digit < 10, 0 < digit →
            UInt8.ofNat (digit + 0x30) ≠ '0'.toUInt8 := by
          decide
        exact nonzero value small positive
      · obtain ⟨first, later, begins, notZero⟩ :=
          inductionHypothesis (value / 10) (by omega) (by omega)
        refine ⟨first, later ++ [UInt8.ofNat (value % 10 + 0x30)], ?_, notZero⟩
        rw [decimalOctets_of_le (Nat.not_lt.mp small), begins]
        rfl

theorem joinDigits_append
    {digits : List Nat}
    {significand joined digit : Nat}
    (fits : joinDigits significand digits = (joined, 0))
    (digitFits : joined * 10 + digit ≤ greatestSignificand) :
    joinDigits significand (digits ++ [digit]) = (joined * 10 + digit, 0) := by
  induction digits generalizing significand with
  | nil =>
      cases fits
      simp only [List.nil_append, joinDigits, digitFits, ↓reduceIte]
  | cons first later inductionHypothesis =>
      simp only [List.cons_append, joinDigits] at fits ⊢
      split at fits
      · next firstFits =>
          rw [if_pos firstFits]
          exact inductionHypothesis fits
      · cases fits

/-- The digits of a numeral that fits are joined to the number. -/
theorem joinDigits_decimalDigits
    {value : Nat}
    (fits : value ≤ greatestSignificand) :
    joinDigits 0 (decimalDigits value) = (value, 0) := by
  induction value using Nat.strongRecOn with
  | ind value inductionHypothesis =>
      by_cases small : value < 10
      · have digit := (octetsOf_digitChar value small).2.2
        simp only [decimalDigits, decimalOctets_of_lt small, List.map_cons, List.map_nil,
          digit, joinDigits, Nat.zero_mul, Nat.zero_add, fits, ↓reduceIte]
      · have last : value % 10 < 10 := Nat.mod_lt value (by decide)
        have parts : value / 10 * 10 + value % 10 = value := Nat.div_add_mod' value 10
        have earlier :=
          inductionHypothesis (value / 10) (by omega)
            (Nat.le_trans (Nat.div_le_self value 10) fits)
        have joined := joinDigits_append earlier (parts.symm ▸ fits)
        rw [parts] at joined
        simpa only [decimalDigits, decimalOctets_of_le (Nat.not_lt.mp small),
          List.map_append, List.map_cons, List.map_nil,
          (octetsOf_digitChar (value % 10) last).2.2] using joined

theorem takeDigits_append
    {digits rest : Octets}
    (allDigits : ∀ octet ∈ digits, isDigit octet = true)
    (ends : EndsNumber rest) :
    takeDigits (digits ++ rest) = (digits.map digitValue, rest) := by
  have noneFollows : rest.takeWhile isDigit = [] ∧ rest.dropWhile isDigit = rest := by
    cases rest with
    | nil =>
        exact ⟨rfl, rfl⟩
    | cons octet later =>
        simp [ends.1]
  unfold takeDigits
  rw [List.takeWhile_append_of_pos allDigits, List.dropWhile_append_of_pos allDigits,
    noneFollows.1, noneFollows.2, List.append_nil]

/-- A numeral that nothing continues is an integer. -/
theorem readAfterInteger_of_endsNumber
    {negative : Bool}
    {significand dropped : Nat}
    {rest : Octets}
    (ends : EndsNumber rest) :
    readAfterInteger negative significand dropped rest =
      integerNumber negative significand dropped rest := by
  cases rest with
  | nil =>
      rfl
  | cons octet later =>
      obtain ⟨-, notPoint, notExponent⟩ := ends
      simp only [readAfterInteger, notPoint, notExponent, Bool.false_eq_true, ↓reduceIte]

/-- A numeral that fits is read back. -/
theorem readNumber_decimalOctets
    {negative : Bool}
    {value : Nat}
    (fits : value ≤ greatestSignificand)
    {rest : Octets}
    (ends : EndsNumber rest) :
    readNumber negative (decimalOctets value ++ rest) =
      integerNumber negative value 0 rest := by
  rcases Nat.eq_zero_or_pos value with rfl | positive
  · have nothing : takeDigits rest = ([], rest) :=
      @takeDigits_append [] rest (fun _ member => absurd member List.not_mem_nil) ends
    rw [decimalOctets_of_lt (by decide)]
    simp only [List.cons_append, List.nil_append, readNumber, nothing]
    exact (if_pos rfl).trans (readAfterInteger_of_endsNumber ends)
  · obtain ⟨first, later, begins, notZero⟩ := head_decimalOctets positive
    have allDigits := isDigit_of_mem_decimalOctets value
    rw [begins] at allDigits
    have firstDigit := allDigits first List.mem_cons_self
    have taken := takeDigits_append
      (fun octet member => allDigits octet (List.mem_cons_of_mem first member)) ends
    have joined := joinDigits_decimalDigits fits
    -- The reader joins the other digits to the first, which is what joining all to zero does.
    rw [decimalDigits, begins, List.map_cons, joinDigits, Nat.zero_mul, Nat.zero_add]
      at joined
    have firstFits : digitValue first ≤ greatestSignificand := by
      apply Classical.byContradiction
      intro tooLarge
      rw [if_neg tooLarge] at joined
      cases joined
    rw [if_pos firstFits] at joined
    rw [begins]
    simp only [List.cons_append, readNumber, notZero, firstDigit, taken, joined,
      ↓reduceIte]
    exact readAfterInteger_of_endsNumber ends

end Lexeme

end SignalRelay
