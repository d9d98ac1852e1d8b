import SignalRelay.Proofs.Json.Skipping

namespace SignalRelay

/-!
# Values skipped

Every value can be skipped from each of its texts, however deeply it nests: brackets go on a
stack of their own, and what lies below on the stack is left as it was.
-/

namespace Skip

open Lexeme Utf8

/-! ## Numbers -/

theorem skipAfterInteger_of_endsNumber
    {rest : Octets}
    (ends : EndsNumber rest) :
    skipAfterInteger rest = .ok rest := by
  cases rest with
  | nil =>
      rfl
  | cons octet later =>
      obtain ⟨-, notPoint, notExponent⟩ := ends
      simp only [skipAfterInteger, skipPower, notPoint, notExponent, Bool.false_eq_true,
        ↓reduceIte]

/-- A numeral is skipped as far as it goes. -/
theorem skipNumber_decimalOctets
    (value : Nat)
    {rest : Octets}
    (ends : EndsNumber rest) :
    skipNumber (decimalOctets value ++ rest) = .ok rest := by
  rcases Nat.eq_zero_or_pos value with rfl | positive
  · have nothing : takeDigits rest = ([], rest) :=
      @takeDigits_append [] rest (fun _ member => absurd member List.not_mem_nil) ends
    rw [decimalOctets_of_lt (by decide)]
    simp only [List.cons_append, List.nil_append, skipNumber, nothing]
    exact (if_pos rfl).trans (skipAfterInteger_of_endsNumber ends)
  · obtain ⟨first, later, begins, notZero⟩ := head_decimalOctets positive
    have allDigits := isDigit_of_mem_decimalOctets value
    rw [begins] at allDigits ⊢
    have firstDigit := allDigits first List.mem_cons_self
    have taken := takeDigits_append
      (fun octet member => allDigits octet (List.mem_cons_of_mem first member)) ends
    have left : (later ++ rest).dropWhile isDigit = rest := congrArg Prod.snd taken
    simp only [List.cons_append, skipNumber, notZero, firstDigit, left, ↓reduceIte]
    exact skipAfterInteger_of_endsNumber ends

theorem skipStart_minus
    (bound : Nat)
    (octets : Octets) :
    skipStart bound ('-'.toUInt8 :: octets) = wholeValue (skipNumber octets) :=
  rfl

theorem skipStart_digit
    (bound : Nat)
    {octet : UInt8}
    (digit : isDigit octet = true)
    (rest : Octets) :
    skipStart bound (octet :: rest) = wholeValue (skipNumber (octet :: rest)) := by
  obtain ⟨notBlank, -, notNull, notTrue, notFalse, notMinus⟩ := Json.ne_of_isDigit digit
  have kept : skipBlanks (octet :: rest) = octet :: rest := by
    simp [skipBlanks, notBlank]
  simp only [skipStart, kept, notNull, notTrue, notFalse, notMinus, digit, ↓reduceIte]

theorem skipStart_integer
    (bound : Nat)
    (value : Int)
    {rest : Octets}
    (ends : EndsNumber rest) :
    skipStart bound (octetsOf (Json.numberText (.integer value)) ++ rest) =
      .ok (.whole rest) := by
  by_cases negative : value < 0
  · have octets := Json.octetsOf_negative negative
    rw [Json.chars] at octets
    rw [octets, List.cons_append, skipStart_minus, skipNumber_decimalOctets _ ends]
    rfl
  · obtain ⟨first, later, begins, digit⟩ := Json.decimalOctets_begin value.natAbs
    have skipped := skipNumber_decimalOctets value.natAbs ends
    have octets := Json.octetsOf_natural negative
    rw [Json.chars] at octets
    rw [octets]
    rw [begins, List.cons_append] at skipped ⊢
    rw [skipStart_digit bound digit, skipped]
    rfl

/-! ## One step of the skipper -/

/-- A scalar takes one round. -/
theorem skipFrom_whole
    {bound : Nat}
    {octets rest : Octets}
    (whole : skipStart bound octets = .ok (.whole rest))
    (stack : List Bracket) :
    skipFrom (bound + 1) .value stack octets = skipFrom bound .ended stack rest := by
  simp only [skipFrom, whole]

/-- Blanks in front of a value do not count. -/
theorem skipFrom_of_skipBlanks
    {octets inside : Octets}
    (same : skipBlanks octets = skipBlanks inside)
    (bound : Nat)
    (stack : List Bracket) :
    skipFrom (bound + 1) .value stack octets = skipFrom (bound + 1) .value stack inside := by
  simp only [skipFrom, skipStart, same]

/-- A bracket that is closed at once takes two rounds. -/
theorem skipFrom_closed
    (bracket : Bracket)
    {bound : Nat}
    {octets inside rest : Octets}
    (start : skipStart (bound + 1) octets = .ok (.opened bracket inside))
    (closed : skipBlanks inside = bracket.closing :: rest)
    (stack : List Bracket) :
    skipFrom (bound + 2) .value stack octets = skipFrom bound .ended stack rest := by
  simp only [skipFrom, start, closed, ↓reduceIte]

/-- A bracket that is not closed at once takes two rounds, and then its first value follows. -/
theorem skipFrom_opened
    (bracket : Bracket)
    {bound : Nat}
    {octets inside valued : Octets}
    {octet : UInt8}
    {later : Octets}
    (start : skipStart (bound + 1) octets = .ok (.opened bracket inside))
    (begins : skipBlanks inside = octet :: later)
    (notClosed : octet ≠ bracket.closing)
    (lead : skipLead bracket bound (octet :: later) = .ok valued)
    (stack : List Bracket) :
    skipFrom (bound + 2) .value stack octets =
      skipFrom bound .value (bracket :: stack) valued := by
  simp only [skipFrom, start, begins, notClosed, lead, ↓reduceIte]

/-- Behind a value the bracket may be closed. -/
theorem skipFrom_end
    (bracket : Bracket)
    {bound : Nat}
    {octets rest : Octets}
    (closed : skipBlanks octets = bracket.closing :: rest)
    (stack : List Bracket) :
    skipFrom (bound + 1) .ended (bracket :: stack) octets =
      skipFrom bound .ended stack rest := by
  have notComma : bracket.closing ≠ ','.toUInt8 := by
    cases bracket <;> decide
  simp only [skipFrom, closed, notComma, ↓reduceIte]

/-- Behind a value and a comma another value follows. -/
theorem skipFrom_comma
    (bracket : Bracket)
    {bound : Nat}
    {octets inside valued : Octets}
    (comma : skipBlanks octets = ','.toUInt8 :: inside)
    (lead : skipLead bracket bound inside = .ok valued)
    (stack : List Bracket) :
    skipFrom (bound + 1) .ended (bracket :: stack) octets =
      skipFrom bound .value (bracket :: stack) valued := by
  simp only [skipFrom, comma, lead, ↓reduceIte]

end Skip

namespace Grammar

open Json Lexeme Skip

/-- The key of a member and its colon are skipped. -/
theorem Characters.skipLead
    {key : String}
    {octets inside colon valued : Octets}
    (opened : skipBlanks octets = '"'.toUInt8 :: inside)
    (keyed : Characters key.toList inside colon)
    (colonRead : readColon colon = .ok valued)
    {bound : Nat}
    (enough : 2 * inside.length ≤ bound) :
    Skip.skipLead .object bound octets = .ok valued := by
  have read := keyed.readText (Nat.le_refl inside.length)
  simp only [Skip.skipLead, skipKey, opened, skipText_of_readText read enough, colonRead,
    ↓reduceIte]

/-!
## Values

The rounds that are left stay at least twice the octets that are left: an opening bracket takes two
rounds and every other lexeme one.  The stack below a value is the same before and behind it, so
the claim about elements is that their bracket goes off the stack with its end.
-/

mutual

/-- A value is skipped from its text, with rounds left for what follows it. -/
theorem Value.skipped
    {value : Json}
    {octets rest : Octets}
    (written : Value value octets rest)
    (ends : EndsNumber rest)
    {rounds : Nat}
    (enough : 2 * octets.length ≤ rounds)
    (stack : List Bracket) :
    ∃ left, 2 * rest.length ≤ left ∧
      skipFrom rounds .value stack octets = skipFrom left .ended stack rest := by
  have shortened := written.length_lt
  obtain ⟨rounds, rfl⟩ : ∃ fewer, rounds = fewer + 2 := ⟨rounds - 2, by omega⟩
  match value with
  | .null | .bool true | .bool false =>
      cases written
      exact ⟨rounds + 1, by omega, skipFrom_whole rfl stack⟩
  | .number (.integer value) =>
      obtain ⟨-, rfl⟩ := written
      exact ⟨rounds + 1, by omega, skipFrom_whole (skipStart_integer _ value ends) stack⟩
  | .number (.real _) =>
      exact written.elim
  | .string text =>
      obtain ⟨inside, rfl, characters⟩ := written
      rw [List.length_cons] at enough shortened
      have read := characters.readText (Nat.le_refl inside.length)
      exact ⟨rounds + 1, by omega,
        skipFrom_whole (skipStart_quote rfl (skipText_of_readText read (by omega))) stack⟩
  | .array [] =>
      obtain ⟨inside, rfl, blanks⟩ := written
      exact ⟨rounds, by omega, skipFrom_closed .list rfl blanks.skipped stack⟩
  | .object [] =>
      obtain ⟨inside, rfl, blanks⟩ := written
      exact ⟨rounds, by omega, skipFrom_closed .object rfl blanks.skipped stack⟩
  | .array (item :: items) =>
      obtain ⟨inside, later, rfl, ⟨core, after, before, itemWritten, behind⟩, more⟩ := written
      have shorter := before.length_le
      have laterShorter := behind.length_le
      rw [List.length_cons] at enough
      obtain ⟨itemLeft, itemEnough, itemSkipped⟩ := @Value.skipped item core after itemWritten
        (behind.endsNumber more.endsNumber) rounds (by omega) (.list :: stack)
      obtain ⟨left, leftEnough, itemsSkipped⟩ := @Items.skipped items later rest more after behind
        itemLeft (by omega) stack
      refine ⟨left, leftEnough, ?_⟩
      rw [← itemsSkipped, ← itemSkipped]
      match core, itemWritten.begins with
      | octet :: following, begins =>
          have kept := skipBlanks_of_beginsValue begins
          exact skipFrom_opened .list rfl (before.skipped.trans kept) begins.2 rfl stack
  | .object ((key, value) :: members) =>
      obtain ⟨inside, later, rfl, member, more⟩ := written
      obtain ⟨quoted, colon, valued, opened, quotedShorter, keyed, colonRead, valuedShorter,
        core, after, before, valueWritten, behind⟩ := member.opened
      have shorter := before.length_le
      have valueShorter := valueWritten.length_lt
      have laterShorter := behind.length_le
      rw [List.length_cons] at enough
      obtain ⟨valueLeft, valueEnough, valueSkipped⟩ := @Value.skipped value core after valueWritten
        (behind.endsNumber more.endsNumber) rounds (by omega) (.object :: stack)
      obtain ⟨left, leftEnough, membersSkipped⟩ := @Members.skipped members later rest more after
        behind valueLeft (by omega) stack
      refine ⟨left, leftEnough, ?_⟩
      rw [← membersSkipped, ← valueSkipped]
      obtain ⟨rounds, rfl⟩ : ∃ fewer, rounds = fewer + 1 := ⟨rounds - 1, by omega⟩
      rw [← skipFrom_of_skipBlanks before.skipped]
      exact skipFrom_opened .object rfl opened (by decide)
        (keyed.skipLead rfl colonRead (by omega)) stack

theorem Items.skipped
    {items : List Json}
    {text rest : Octets}
    (written : Items items text rest)
    {octets : Octets}
    (blanks : Blanks octets text)
    {rounds : Nat}
    (enough : 2 * text.length ≤ rounds)
    (stack : List Bracket) :
    ∃ left, 2 * rest.length ≤ left ∧
      skipFrom rounds .ended (.list :: stack) octets = skipFrom left .ended stack rest := by
  match items with
  | [] =>
      cases written
      rw [List.length_cons] at enough
      obtain ⟨rounds, rfl⟩ : ∃ fewer, rounds = fewer + 1 := ⟨rounds - 1, by omega⟩
      exact ⟨rounds, by omega, skipFrom_end .list blanks.skipped stack⟩
  | item :: items =>
      obtain ⟨inside, later, rfl, ⟨core, after, before, itemWritten, behind⟩, more⟩ := written
      have shorter := before.length_le
      have itemShorter := itemWritten.length_lt
      have laterShorter := behind.length_le
      rw [List.length_cons] at enough
      obtain ⟨rounds, rfl⟩ : ∃ fewer, rounds = fewer + 2 := ⟨rounds - 2, by omega⟩
      obtain ⟨itemLeft, itemEnough, itemSkipped⟩ := @Value.skipped item core after itemWritten
        (behind.endsNumber more.endsNumber) (rounds + 1) (by omega) (.list :: stack)
      obtain ⟨left, leftEnough, itemsSkipped⟩ := @Items.skipped items later rest more after behind
        itemLeft (by omega) stack
      refine ⟨left, leftEnough, ?_⟩
      rw [← itemsSkipped, ← itemSkipped, ← skipFrom_of_skipBlanks before.skipped]
      exact skipFrom_comma .list blanks.skipped rfl stack

theorem Members.skipped
    {members : List (String × Json)}
    {text rest : Octets}
    (written : Members members text rest)
    {octets : Octets}
    (blanks : Blanks octets text)
    {rounds : Nat}
    (enough : 2 * text.length ≤ rounds)
    (stack : List Bracket) :
    ∃ left, 2 * rest.length ≤ left ∧
      skipFrom rounds .ended (.object :: stack) octets = skipFrom left .ended stack rest := by
  match members with
  | [] =>
      cases written
      rw [List.length_cons] at enough
      obtain ⟨rounds, rfl⟩ : ∃ fewer, rounds = fewer + 1 := ⟨rounds - 1, by omega⟩
      exact ⟨rounds, by omega, skipFrom_end .object blanks.skipped stack⟩
  | (key, value) :: members =>
      obtain ⟨inside, later, rfl, member, more⟩ := written
      obtain ⟨quoted, colon, valued, opened, quotedShorter, keyed, colonRead, valuedShorter,
        core, after, before, valueWritten, behind⟩ := member.opened
      have shorter := before.length_le
      have valueShorter := valueWritten.length_lt
      have laterShorter := behind.length_le
      rw [List.length_cons] at enough
      obtain ⟨rounds, rfl⟩ : ∃ fewer, rounds = fewer + 2 := ⟨rounds - 2, by omega⟩
      obtain ⟨valueLeft, valueEnough, valueSkipped⟩ := @Value.skipped value core after valueWritten
        (behind.endsNumber more.endsNumber) (rounds + 1) (by omega) (.object :: stack)
      obtain ⟨left, leftEnough, membersSkipped⟩ := @Members.skipped members later rest more after
        behind valueLeft (by omega) stack
      refine ⟨left, leftEnough, ?_⟩
      rw [← membersSkipped, ← valueSkipped, ← skipFrom_of_skipBlanks before.skipped]
      exact skipFrom_comma .object blanks.skipped (keyed.skipLead opened colonRead (by omega)) stack

end

/-- A value that nobody asks for is skipped, with blanks in front of it. -/
theorem Value.skipValue
    {value : Json}
    {octets inside rest : Octets}
    (written : Value value inside rest)
    (before : Blanks octets inside)
    (ends : EndsNumber rest)
    {bound : Nat}
    (enough : inside.length ≤ bound) :
    Skip.skipValue bound octets = .ok rest := by
  obtain ⟨left, -, skipped⟩ :=
    @Value.skipped value inside rest written ends (2 * bound + 1) (by omega) []
  rw [Skip.skipValue, skipFrom_of_skipBlanks before.skipped, skipped]
  cases left <;> rfl

end Grammar

end SignalRelay
