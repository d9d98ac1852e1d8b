import SignalRelay.Json.Reader
import SignalRelay.Proofs.Json.Phrases

namespace SignalRelay

/-!
# Documents read

A value whose numbers are integers that fit is read from each of its texts, provided that it nests
no deeper than the reader goes; of members with one key the last counts.  If it nests deeper, the
reader refuses it for that and nothing else: whatever stands before the bracket too many is read
first.
-/

namespace Json

open Lexeme Utf8

/-- What the text of a value begins with: no blank, and not the end of an array. -/
def BeginsValue : Octets → Prop
  | [] => False
  | octet :: _ => isBlank octet = false ∧ octet ≠ ']'.toUInt8

/-- A reading that was refused because of its depth. -/
def TooDeep {α : Type} (reading : Reading α) : Prop :=
  ∃ fault, reading = .error fault ∧ fault.reason = .tooDeep

/-! ## Readings that depend on the depth -/

/-- A reading gives a value if that is within a depth, and is refused for the depth otherwise. -/
def ReadWithin {α : Type} (within : Prop) (value : α) (rest : Octets) (reading : Reading α) :
    Prop :=
  (within ∧ reading = .ok (value, rest)) ∨ (¬within ∧ TooDeep reading)

theorem ReadWithin.of_iff
    {α : Type}
    {within other : Prop}
    {value : α}
    {rest : Octets}
    {reading : Reading α}
    (read : ReadWithin within value rest reading)
    (same : within ↔ other) :
    ReadWithin other value rest reading := by
  rwa [propext same] at read

/-- What is made of the value does not change whether it is read. -/
theorem ReadWithin.map
    {α β : Type}
    {within : Prop}
    {value : α}
    {rest : Octets}
    {reading : Reading α}
    (read : ReadWithin within value rest reading)
    (make : α → β) :
    ReadWithin within (make value) rest
      (reading.map fun result => (make result.1, result.2)) := by
  rcases read with ⟨holds, rfl⟩ | ⟨fails, fault, rfl, reason⟩
  · exact .inl ⟨holds, rfl⟩
  · exact .inr ⟨fails, fault, rfl, reason⟩

/-- Of two readings one after the other the first that goes too deep is refused. -/
theorem ReadWithin.bind
    {α β : Type}
    {within further : Prop}
    {value : α}
    {result : β}
    {between rest : Octets}
    {reading : Reading α}
    {next : α × Octets → Reading β}
    (read : ReadWithin within value between reading)
    (readNext : ReadWithin further result rest (next (value, between))) :
    ReadWithin (within ∧ further) result rest (reading.bind next) := by
  rcases read with ⟨holds, rfl⟩ | ⟨fails, fault, rfl, reason⟩
  · exact readNext.of_iff ⟨fun furtherHolds => ⟨holds, furtherHolds⟩, And.right⟩
  · exact .inr ⟨fun both => fails both.1, fault, rfl, reason⟩

/-! ## One step of the readers -/

theorem octetsOf_natural
    {value : Int}
    (natural : ¬value < 0) :
    octetsOf (chars (.number (.integer value))) = decimalOctets value.natAbs := by
  simp only [chars, numberText, natural, ↓reduceIte, List.nil_append]
  rfl

theorem octetsOf_negative
    {value : Int}
    (negative : value < 0) :
    octetsOf (chars (.number (.integer value))) =
      '-'.toUInt8 :: decimalOctets value.natAbs := by
  simp only [chars, numberText, negative, ↓reduceIte, List.cons_append, List.nil_append]
  exact octetsOf_cons_ascii (by decide) _

/-- A digit is no blank, ends no array, and begins neither a word nor a negative number. -/
theorem ne_of_isDigit
    {octet : UInt8}
    (digit : isDigit octet = true) :
    isBlank octet = false ∧ octet ≠ ']'.toUInt8 ∧ octet ≠ 'n'.toUInt8 ∧
      octet ≠ 't'.toUInt8 ∧ octet ≠ 'f'.toUInt8 ∧ octet ≠ '-'.toUInt8 := by
  have limits : 0x30 ≤ octet.toNat ∧ octet.toNat ≤ 0x39 := by
    simpa [isDigit, UInt8.le_iff_toNat_le] using digit
  have other : ∀ different : UInt8,
      different.toNat < 0x30 ∨ 0x39 < different.toNat → octet ≠ different := by
    intro different outside same
    subst same
    omega
  refine ⟨?_, other _ (by decide), other _ (by decide), other _ (by decide),
    other _ (by decide), other _ (by decide)⟩
  simp only [isBlank, Bool.or_eq_false_iff, beq_eq_false_iff_ne]
  exact ⟨⟨⟨other _ (by decide), other _ (by decide)⟩, other _ (by decide)⟩,
    other _ (by decide)⟩

theorem decimalOctets_begin
    (value : Nat) :
    ∃ first later, decimalOctets value = first :: later ∧ isDigit first = true := by
  have digits := isDigit_of_mem_decimalOctets value
  cases octets : decimalOctets value with
  | nil =>
      rcases Nat.lt_or_ge value 10 with small | large
      · rw [decimalOctets_of_lt small] at octets
        cases octets
      · rw [decimalOctets_of_le large] at octets
        exact (List.append_ne_nil_of_right_ne_nil _ (List.cons_ne_nil _ _) octets).elim
  | cons first later =>
      rw [octets] at digits
      exact ⟨first, later, rfl, digits first List.mem_cons_self⟩

/-- An integer begins with a minus sign or a digit. -/
theorem octetsOf_integer
    (value : Int) :
    ∃ first later,
      octetsOf (numberText (.integer value)) = first :: later ∧
        (first = '-'.toUInt8 ∨ isDigit first = true) := by
  by_cases negative : value < 0
  · exact ⟨_, _, octetsOf_negative negative, .inl rfl⟩
  · obtain ⟨first, later, begins, digit⟩ := decimalOctets_begin value.natAbs
    exact ⟨first, later, (octetsOf_natural negative).trans begins, .inr digit⟩

theorem skipBlanks_of_beginsValue
    {octets : Octets}
    (begins : BeginsValue octets) :
    skipBlanks octets = octets := by
  cases octets with
  | nil =>
      rfl
  | cons octet later =>
      simp [skipBlanks, begins.1]

theorem readValue_string
    (levels bound : Nat)
    (rest : Octets) :
    readValue levels bound ('"'.toUInt8 :: rest) = stringValue (readText bound rest) := by
  cases levels <;> rfl

theorem readValue_minus
    (levels bound : Nat)
    (rest : Octets) :
    readValue levels bound ('-'.toUInt8 :: rest) = numberValue (readNumber true rest) := by
  cases levels <;> rfl

theorem readValue_digit
    (levels bound : Nat)
    {octet : UInt8}
    (digit : isDigit octet = true)
    (rest : Octets) :
    readValue levels bound (octet :: rest) =
      numberValue (readNumber false (octet :: rest)) := by
  obtain ⟨notBlank, -, notNull, notTrue, notFalse, notMinus⟩ := ne_of_isDigit digit
  have kept : skipBlanks (octet :: rest) = octet :: rest := by
    simp [skipBlanks, notBlank]
  cases levels with
  | zero =>
      simp only [readValue, kept, readStarted, notNull, notTrue, notFalse, notMinus, digit,
        ↓reduceIte]
  | succ levels =>
      simp only [readValue, kept, readStarted, notNull, notTrue, notFalse, notMinus, digit,
        ↓reduceIte]

/-- An integer that fits 64 bits is read back. -/
theorem readValue_integer
    {value : Int}
    (fits : (JsonNumber.integer value).Fits)
    (levels bound : Nat)
    {rest : Octets}
    (ends : EndsNumber rest) :
    readValue levels bound (octetsOf (chars (.number (.integer value))) ++ rest) =
      .ok (.number (.integer value), rest) := by
  obtain ⟨lower, upper⟩ := fits
  have limit : greatestSignificand = 0xFFFFFFFFFFFFFFFF := rfl
  have small : value.natAbs ≤ greatestSignificand := by omega
  by_cases negative : value < 0
  · have limits : value.natAbs ≠ 0 ∧ value.natAbs ≤ Nat.pow 2 63 := by
      have signedLimit : Nat.pow 2 63 = 0x8000000000000000 := rfl
      omega
    have size : -(value.natAbs : Int) = value := by omega
    rw [octetsOf_negative negative, List.cons_append, readValue_minus,
      readNumber_decimalOctets small ends]
    simp only [integerNumber, limits, ne_eq, not_true_eq_false, not_false_eq_true,
      Bool.not_true, Bool.false_eq_true, and_self, ↓reduceIte, numberValue, size]
  · have size : (value.natAbs : Int) = value := by omega
    have read := @readNumber_decimalOctets false _ small rest ends
    obtain ⟨first, later, begins, digit⟩ := decimalOctets_begin value.natAbs
    rw [octetsOf_natural negative]
    rw [begins] at read ⊢
    rw [List.cons_append] at read ⊢
    rw [readValue_digit levels bound digit, read]
    simp only [integerNumber, ne_eq, not_true_eq_false, Bool.not_false, ↓reduceIte,
      numberValue, size]

/-- Blanks in front of a value do not count. -/
theorem readValue_of_skipBlanks
    {octets inside : Octets}
    (same : skipBlanks octets = skipBlanks inside)
    (levels bound : Nat) :
    readValue levels bound octets = readValue levels bound inside := by
  cases levels <;> simp only [readValue, same]

/-- The first element of an array decides how its reading goes on. -/
theorem readArray_of_begins
    (item : ValueReader)
    (bound : Nat)
    {octets inside : Octets}
    (same : skipBlanks octets = skipBlanks inside)
    (begins : BeginsValue inside) :
    readArray item bound octets =
      (item bound inside).bind fun first =>
        (readMoreItems item bound [first.1] first.2).map fun result =>
          (.array result.1, result.2) := by
  cases inside with
  | nil =>
      exact begins.elim
  | cons octet later =>
      unfold readArray
      rw [same, skipBlanks_of_beginsValue begins]
      dsimp only
      rw [if_neg begins.2]
      cases item bound (octet :: later) with
      | error => rfl
      | ok first =>
          dsimp only [Except.bind]
          cases readMoreItems item bound [first.1] first.2 <;> rfl

/-- The end of an array ends it behind blanks too. -/
theorem readMoreItems_end
    (item : ValueReader)
    (bound : Nat)
    (read : List Json)
    {octets rest : Octets}
    (same : skipBlanks octets = ']'.toUInt8 :: rest) :
    readMoreItems item (bound + 1) read octets = .ok (read.reverse, rest) := by
  simp only [readMoreItems, same, ↓reduceIte]

/-- The element behind a comma decides how the reading of an array goes on. -/
theorem readMoreItems_of_begins
    (item : ValueReader)
    (bound : Nat)
    (read : List Json)
    {octets later inside : Octets}
    (comma : skipBlanks octets = ','.toUInt8 :: later)
    (same : skipBlanks later = skipBlanks inside)
    (begins : BeginsValue inside) :
    readMoreItems item (bound + 1) read octets =
      (item bound inside).bind fun next =>
        readMoreItems item bound (next.1 :: read) next.2 := by
  cases inside with
  | nil =>
      exact begins.elim
  | cons octet following =>
      have notEnd : ','.toUInt8 ≠ ']'.toUInt8 := by decide
      cases read : item bound (octet :: following) <;>
        simp only [readMoreItems, comma, notEnd, same, skipBlanks_of_beginsValue begins,
          begins.2, read, ↓reduceIte, Except.bind]

/-- Behind the opening quote of its key a member is read as the key and what the value reader
makes of the rest. -/
theorem readMember_of_characters
    (item : ValueReader)
    {bound : Nat}
    {key : String}
    {inside colon valued : Octets}
    (keyed : Grammar.Characters key.toList inside colon)
    (colonRead : readColon colon = .ok valued)
    (enough : inside.length ≤ bound) :
    readMember item bound inside =
      (item bound valued).map fun result => ((key, result.1), result.2) := by
  simp only [readMember, keyed.readText enough, colonRead]
  cases item bound valued <;> rfl

theorem readObject_of_quote
    (item : ValueReader)
    (bound : Nat)
    {octets inside : Octets}
    (quote : skipBlanks octets = '"'.toUInt8 :: inside) :
    readObject item bound octets =
      (readMember item bound inside).bind fun first =>
        (readMoreMembers item bound [first.1] first.2).map fun result =>
          (ofMembers result.1, result.2) := by
  have notEnd : '"'.toUInt8 ≠ '}'.toUInt8 := by decide
  unfold readObject
  rw [quote]
  dsimp only
  rw [if_neg notEnd, if_pos rfl]
  cases readMember item bound inside with
  | error => rfl
  | ok first =>
      dsimp only [Except.bind]
      cases readMoreMembers item bound [first.1] first.2 <;> rfl

/-- The end of an object ends it behind blanks too. -/
theorem readMoreMembers_end
    (item : ValueReader)
    (bound : Nat)
    (read : List (String × Json))
    {octets rest : Octets}
    (same : skipBlanks octets = '}'.toUInt8 :: rest) :
    readMoreMembers item (bound + 1) read octets = .ok (read.reverse, rest) := by
  simp only [readMoreMembers, same, ↓reduceIte]

theorem readMoreMembers_of_quote
    (item : ValueReader)
    (bound : Nat)
    (read : List (String × Json))
    {octets later inside : Octets}
    (comma : skipBlanks octets = ','.toUInt8 :: later)
    (quote : skipBlanks later = '"'.toUInt8 :: inside) :
    readMoreMembers item (bound + 1) read octets =
      (readMember item bound inside).bind fun next =>
        readMoreMembers item bound (next.1 :: read) next.2 := by
  have notEnd : ','.toUInt8 ≠ '}'.toUInt8 := by decide
  cases member : readMember item bound inside <;>
    simp only [readMoreMembers, comma, notEnd, quote, member, ↓reduceIte, Except.bind]

end Json

namespace Grammar

open Json Lexeme Utf8

/-! ## What phrases begin with -/

/-- A member begins with a quote, and behind its key there is a colon. -/
theorem Member.opened
    {key : String}
    {value : Phrase}
    {octets rest : Octets}
    (written : Member key value octets rest) :
    ∃ inside colon valued,
      skipBlanks octets = '"'.toUInt8 :: inside ∧
        inside.length < octets.length ∧
        Characters key.toList inside colon ∧
        readColon colon = .ok valued ∧
        valued.length < inside.length ∧
        Padded value valued rest := by
  obtain ⟨_, valued, ⟨_, colon, before, ⟨inside, rfl, keyed⟩, after⟩, rfl, padded⟩ := written
  have longer := before.length_le
  have shorter := after.length_le
  have keyLonger := keyed.length_lt
  simp only [List.length_cons] at longer shorter
  have opened : skipBlanks ('"'.toUInt8 :: inside) = '"'.toUInt8 :: inside := rfl
  refine ⟨inside, colon, valued, before.skipped.trans opened, by omega, keyed, ?_, by omega,
    padded⟩
  have here : skipBlanks colon = ':'.toUInt8 :: valued := after.skipped
  simp only [readColon, here, ↓reduceIte]

theorem Items.octet
    {items : List Json}
    {octets rest : Octets}
    (written : Items items octets rest) :
    (∃ later, octets = ']'.toUInt8 :: later) ∨ ∃ later, octets = ','.toUInt8 :: later := by
  cases items with
  | nil => exact .inl ⟨rest, written⟩
  | cons item items =>
      obtain ⟨inside, later, rfl, -⟩ := written
      exact .inr ⟨inside, rfl⟩

theorem Items.endsNumber
    {items : List Json}
    {octets rest : Octets}
    (written : Items items octets rest) :
    EndsNumber octets := by
  rcases written.octet with ⟨later, rfl⟩ | ⟨later, rfl⟩
  · exact ⟨rfl, by decide, rfl⟩
  · exact ⟨rfl, by decide, rfl⟩

theorem Members.endsNumber
    {members : List (String × Json)}
    {octets rest : Octets}
    (written : Members members octets rest) :
    EndsNumber octets := by
  cases members with
  | nil =>
      cases written
      exact ⟨rfl, by decide, rfl⟩
  | cons member members =>
      obtain ⟨inside, later, rfl, -⟩ := written
      exact ⟨rfl, by decide, rfl⟩

theorem Value.begins
    {value : Json}
    {octets rest : Octets}
    (written : Value value octets rest) :
    BeginsValue octets := by
  match value with
  | .null | .bool true | .bool false =>
      cases written
      exact ⟨rfl, by decide⟩
  | .number (.integer value) =>
      obtain ⟨-, rfl⟩ := written
      obtain ⟨first, later, octets, rfl | digit⟩ := octetsOf_integer value
      · rw [octets]
        exact ⟨rfl, by decide⟩
      · rw [octets]
        exact ⟨(ne_of_isDigit digit).1, (ne_of_isDigit digit).2.1⟩
  | .number (.real _) =>
      exact written.elim
  | .string text =>
      obtain ⟨inside, rfl, -⟩ := written
      exact ⟨rfl, by decide⟩
  | .array [] | .object [] =>
      obtain ⟨inside, rfl, -⟩ := written
      exact ⟨rfl, by decide⟩
  | .array (_ :: _) | .object ((_, _) :: _) =>
      obtain ⟨inside, later, rfl, -⟩ := written
      exact ⟨rfl, by decide⟩

/-! ## Lengths -/

/-- What shortens the octets does so with blanks around it. -/
theorem Padded.length_lt
    {phrase : Phrase}
    {octets rest : Octets}
    (written : Padded phrase octets rest)
    (shortens : ∀ inside after, phrase inside after → after.length < inside.length) :
    rest.length < octets.length := by
  obtain ⟨inside, after, before, core, behind⟩ := written
  exact Nat.lt_of_le_of_lt behind.length_le
    (Nat.lt_of_lt_of_le (shortens inside after core) before.length_le)

theorem Member.length_lt
    {key : String}
    {value : Phrase}
    {octets rest : Octets}
    (written : Member key value octets rest)
    (shortens : ∀ inside after, value inside after → after.length < inside.length) :
    rest.length < octets.length := by
  obtain ⟨inside, colon, valued, -, shorter, -, -, further, padded⟩ := written.opened
  have last := padded.length_lt shortens
  omega

mutual

theorem Value.length_lt
    {value : Json}
    {octets rest : Octets}
    (written : Value value octets rest) :
    rest.length < octets.length := by
  match value with
  | .null | .bool true | .bool false =>
      cases written
      rw [List.length_append]
      exact Nat.lt_add_of_pos_left (by decide)
  | .number (.integer value) =>
      obtain ⟨-, rfl⟩ := written
      obtain ⟨first, later, octets, -⟩ := octetsOf_integer value
      rw [octets, List.length_append]
      exact Nat.lt_add_of_pos_left (Nat.succ_pos _)
  | .number (.real _) =>
      exact written.elim
  | .string text =>
      obtain ⟨inside, rfl, characters⟩ := written
      exact Nat.lt_succ_of_lt characters.length_lt
  | .array [] | .object [] =>
      obtain ⟨inside, rfl, blanks⟩ := written
      have shorter := blanks.length_le
      simp only [List.length_cons] at shorter ⊢
      omega
  | .array (item :: items) =>
      obtain ⟨inside, later, rfl, first, more⟩ := written
      have firstShorter := first.length_lt fun _ _ => Value.length_lt
      have shorter := Items.length_lt more
      simp only [List.length_cons]
      omega
  | .object ((key, value) :: members) =>
      obtain ⟨inside, later, rfl, first, more⟩ := written
      have firstShorter := first.length_lt fun _ _ => Value.length_lt
      have shorter := Members.length_lt more
      simp only [List.length_cons]
      omega

theorem Items.length_lt
    {items : List Json}
    {octets rest : Octets}
    (written : Items items octets rest) :
    rest.length < octets.length := by
  match items with
  | [] =>
      cases written
      exact Nat.lt_succ_self _
  | item :: items =>
      obtain ⟨inside, later, rfl, first, more⟩ := written
      have firstShorter := first.length_lt fun _ _ => Value.length_lt
      have shorter := Items.length_lt more
      simp only [List.length_cons]
      omega

theorem Members.length_lt
    {members : List (String × Json)}
    {octets rest : Octets}
    (written : Members members octets rest) :
    rest.length < octets.length := by
  match members with
  | [] =>
      cases written
      exact Nat.lt_succ_self _
  | (key, value) :: members =>
      obtain ⟨inside, later, rfl, first, more⟩ := written
      have firstShorter := first.length_lt fun _ _ => Value.length_lt
      have shorter := Members.length_lt more
      simp only [List.length_cons]
      omega

end

end Grammar

namespace Json

open Lexeme Utf8 Grammar

/-!
## Values

The recursion is that of the grammar.  A bracket costs the reader one level, and a comma one round
of its bound; what follows an element or a member always ends a number.
-/

mutual

/-- A value is read from its text if it nests no deeper than the reader goes, and refused for its
depth otherwise. -/
theorem readValue_written
    {value : Json}
    {octets rest : Octets}
    (written : Value value octets rest)
    {levels bound : Nat}
    (ends : EndsNumber rest)
    (enough : octets.length ≤ bound) :
    ReadWithin (value.depth ≤ levels) value.settled rest (readValue levels bound octets) := by
  match value, levels with
  | .null, levels | .bool true, levels | .bool false, levels =>
      cases written
      exact .inl ⟨Nat.zero_le _, by cases levels <;> rfl⟩
  | .number (.integer value), levels =>
      obtain ⟨fits, rfl⟩ := written
      exact .inl ⟨Nat.zero_le _, readValue_integer fits levels bound ends⟩
  | .number (.real _), _ =>
      exact written.elim
  | .string text, levels =>
      obtain ⟨inside, rfl, characters⟩ := written
      refine .inl ⟨Nat.zero_le _, ?_⟩
      rw [readValue_string, characters.readText (Nat.le_of_succ_le enough)]
      rfl
  | .array [], 0 | .object [], 0 =>
      obtain ⟨inside, rfl, -⟩ := written
      exact .inr ⟨Nat.not_succ_le_zero _, _, rfl, rfl⟩
  | .array (_ :: _), 0 | .object ((_, _) :: _), 0 =>
      obtain ⟨inside, later, rfl, -⟩ := written
      exact .inr ⟨Nat.not_succ_le_zero _, _, rfl, rfl⟩
  | .array [], levels + 1 =>
      obtain ⟨inside, rfl, blanks⟩ := written
      refine .inl ⟨Nat.succ_le_succ (Nat.zero_le levels), ?_⟩
      change readArray (readValue levels) bound inside = _
      unfold readArray
      rw [blanks.skipped]
      rfl
  | .object [], levels + 1 =>
      obtain ⟨inside, rfl, blanks⟩ := written
      refine .inl ⟨Nat.succ_le_succ (Nat.zero_le levels), ?_⟩
      change readObject (readValue levels) bound inside = _
      unfold readObject
      rw [blanks.skipped]
      rfl
  | .array (item :: items), levels + 1 =>
      obtain ⟨inside, later, rfl, ⟨core, after, before, itemWritten, behind⟩, more⟩ := written
      have shorter := before.length_le
      have itemShorter := itemWritten.length_lt
      have laterShorter := behind.length_le
      rw [List.length_cons] at enough
      have itemRead := @readValue_written item core after itemWritten levels bound
        (behind.endsNumber more.endsNumber) (by omega)
      have itemsRead := @readMoreItems_written items later rest more after behind levels bound
        (by omega) [item.settled]
      change ReadWithin _ _ _ (readArray (readValue levels) bound inside)
      rw [readArray_of_begins _ _ before.skipped itemWritten.begins]
      refine (itemRead.bind (itemsRead.map Json.array)).of_iff ?_
      simp only [depth, depthItems, Nat.add_le_add_iff_right, Nat.max_le]
  | .object ((key, value) :: members), levels + 1 =>
      obtain ⟨inside, later, rfl, member, more⟩ := written
      obtain ⟨quoted, colon, valued, opened, quotedShorter, keyed, colonRead, valuedShorter,
        core, after, before, valueWritten, behind⟩ := member.opened
      have shorter := before.length_le
      have valueShorter := valueWritten.length_lt
      have laterShorter := behind.length_le
      rw [List.length_cons] at enough
      have valueRead := @readValue_written value core after valueWritten levels bound
        (behind.endsNumber more.endsNumber) (by omega)
      have membersRead := @readMoreMembers_written members later rest more after behind levels
        bound (by omega) [(key, value.settled)]
      rw [← readValue_of_skipBlanks before.skipped] at valueRead
      change ReadWithin _ _ _ (readObject (readValue levels) bound inside)
      rw [readObject_of_quote _ _ opened,
        readMember_of_characters _ keyed colonRead (by omega)]
      refine ((valueRead.map fun value => (key, value)).bind
        (membersRead.map ofMembers)).of_iff ?_
      simp only [depth, depthMembers, Nat.add_le_add_iff_right, Nat.max_le]

/-- Further elements are read behind those already read. -/
theorem readMoreItems_written
    {items : List Json}
    {text rest : Octets}
    (written : Items items text rest)
    {octets : Octets}
    (blanks : Blanks octets text)
    {levels bound : Nat}
    (enough : text.length ≤ bound)
    (read : List Json) :
    ReadWithin (depthItems items ≤ levels) (read.reverse ++ settledItems items) rest
      (readMoreItems (readValue levels) bound read octets) := by
  match items with
  | [] =>
      cases written
      obtain ⟨bound, rfl, -⟩ := exists_fewer enough
      refine .inl ⟨Nat.zero_le levels, ?_⟩
      rw [readMoreItems_end _ _ _ blanks.skipped, settledItems, List.append_nil]
  | item :: items =>
      obtain ⟨inside, later, rfl, ⟨core, after, before, itemWritten, behind⟩, more⟩ := written
      have shorter := before.length_le
      have itemShorter := itemWritten.length_lt
      have laterShorter := behind.length_le
      obtain ⟨bound, rfl, insideEnough⟩ := exists_fewer enough
      have itemRead := @readValue_written item core after itemWritten levels bound
        (behind.endsNumber more.endsNumber) (by omega)
      have itemsRead := @readMoreItems_written items later rest more after behind levels bound
        (by omega) (item.settled :: read)
      rw [readMoreItems_of_begins _ _ _ blanks.skipped before.skipped itemWritten.begins]
      rw [List.reverse_cons, List.append_assoc] at itemsRead
      refine (itemRead.bind itemsRead).of_iff ?_
      simp only [depthItems, Nat.max_le]

/-- Further members are read behind those already read. -/
theorem readMoreMembers_written
    {members : List (String × Json)}
    {text rest : Octets}
    (written : Members members text rest)
    {octets : Octets}
    (blanks : Blanks octets text)
    {levels bound : Nat}
    (enough : text.length ≤ bound)
    (read : List (String × Json)) :
    ReadWithin (depthMembers members ≤ levels) (read.reverse ++ settledMembers members) rest
      (readMoreMembers (readValue levels) bound read octets) := by
  match members with
  | [] =>
      cases written
      obtain ⟨bound, rfl, -⟩ := exists_fewer enough
      refine .inl ⟨Nat.zero_le levels, ?_⟩
      rw [readMoreMembers_end _ _ _ blanks.skipped, settledMembers, List.append_nil]
  | (key, value) :: members =>
      obtain ⟨inside, later, rfl, member, more⟩ := written
      obtain ⟨quoted, colon, valued, opened, quotedShorter, keyed, colonRead, valuedShorter,
        core, after, before, valueWritten, behind⟩ := member.opened
      have shorter := before.length_le
      have valueShorter := valueWritten.length_lt
      have laterShorter := behind.length_le
      obtain ⟨bound, rfl, insideEnough⟩ := exists_fewer enough
      have valueRead := @readValue_written value core after valueWritten levels bound
        (behind.endsNumber more.endsNumber) (by omega)
      have membersRead := @readMoreMembers_written members later rest more after behind levels
        bound (by omega) ((key, value.settled) :: read)
      rw [← readValue_of_skipBlanks before.skipped] at valueRead
      rw [readMoreMembers_of_quote _ _ _ blanks.skipped opened,
        readMember_of_characters _ keyed colonRead (by omega)]
      rw [List.reverse_cons, List.append_assoc] at membersRead
      refine ((valueRead.map fun value => (key, value)).bind membersRead).of_iff ?_
      simp only [depthMembers, Nat.max_le]

end

end Json

end SignalRelay
