import SignalRelay.Proofs.Json.Documents

namespace SignalRelay

/-!
# Values read back

The writer gives one of the texts of a value.  A well-formed value without binary64 numbers is
therefore read back, provided that it nests no deeper than the reader goes.
-/

namespace Json

open Lexeme Utf8

/-! ## The text of a value, octet by octet -/

theorem octetsOf_array
    (item : Json)
    (items : List Json)
    (rest : Octets) :
    octetsOf (chars (.array (item :: items))) ++ rest =
      '['.toUInt8 :: (octetsOf item.chars ++ (octetsOf (itemChars items) ++ rest)) := by
  rw [chars, octetsOf_cons_ascii (by decide), octetsOf_append]
  simp only [List.cons_append, List.append_assoc]

theorem octetsOf_itemChars
    (item : Json)
    (items : List Json)
    (rest : Octets) :
    octetsOf (itemChars (item :: items)) ++ rest =
      ','.toUInt8 :: (octetsOf item.chars ++ (octetsOf (itemChars items) ++ rest)) := by
  rw [itemChars, octetsOf_cons_ascii (by decide), octetsOf_append]
  simp only [List.cons_append, List.append_assoc]

/-- The octets of a member after the opening quote of its key, and what follows it. -/
def memberOctets (key : String) (value : Json) (rest : Octets) : Octets :=
  octetsOf (key.toList.flatMap escape) ++
    '"'.toUInt8 :: ':'.toUInt8 :: (octetsOf value.chars ++ rest)

theorem octetsOf_object
    (key : String)
    (value : Json)
    (members : List (String × Json))
    (rest : Octets) :
    octetsOf (chars (.object ((key, value) :: members))) ++ rest =
      '{'.toUInt8 :: '"'.toUInt8 ::
        memberOctets key value (octetsOf (memberChars members) ++ rest) := by
  rw [chars, octetsOf_cons_ascii (by decide), octetsOf_append,
    octetsOf_cons_ascii (by decide), octetsOf_append]
  simp only [List.cons_append, List.append_assoc, octetsOf_stringText]
  rfl

theorem octetsOf_memberChars
    (key : String)
    (value : Json)
    (members : List (String × Json))
    (rest : Octets) :
    octetsOf (memberChars ((key, value) :: members)) ++ rest =
      ','.toUInt8 :: '"'.toUInt8 ::
        memberOctets key value (octetsOf (memberChars members) ++ rest) := by
  rw [memberChars, octetsOf_cons_ascii (by decide), octetsOf_append,
    octetsOf_cons_ascii (by decide), octetsOf_append]
  simp only [List.cons_append, List.append_assoc, octetsOf_stringText]
  rfl

theorem length_value_le
    {key : String}
    {value : Json}
    {rest : Octets}
    {bound : Nat}
    (enough : (memberOctets key value rest).length ≤ bound) :
    (octetsOf value.chars ++ rest).length ≤ bound := by
  refine Nat.le_trans ?_ enough
  simp only [memberOctets, List.length_append, List.length_cons]
  omega

theorem length_rest_le
    {octets rest : Octets}
    {bound : Nat}
    (enough : (octets ++ rest).length ≤ bound) :
    rest.length ≤ bound := by
  rw [List.length_append] at enough
  exact Nat.le_trans (Nat.le_add_left _ _) enough

end Json

namespace Grammar

open Json Lexeme Utf8

/-! ## Strings that are written -/

/-- A number below sixteen is written as one of its digits. -/
theorem hexDigit_written :
    ∀ value < 16, HexDigit value (hexDigit value) := by
  unfold HexDigit
  decide

/-- The writer escapes a character in one of the ways there are. -/
theorem Character.escaped
    (c : Char)
    (rest : Octets) :
    Character c (octetsOf (escape c) ++ rest) rest := by
  unfold escape
  split
  · exact .short (by decide)
  · exact .short (by decide)
  · exact .short (by decide)
  · exact .short (by decide)
  · exact .short (by decide)
  · exact .short (by decide)
  · exact .short (by decide)
  · next notQuote notBackslash _ _ _ _ _ =>
      split
      · next control =>
          have zero : HexDigit 0 '0' := by
            unfold HexDigit
            decide
          exact .unit ⟨0, 0, _, _, _, _, _, _, zero, zero, hexDigit_written _ (by omega),
            hexDigit_written _ (by omega), by omega, rfl⟩
      · next notControl =>
          have alone : octetsOf [c] = String.utf8EncodeChar c := by
            simp [octetsOf]
          rw [alone]
          exact .plain notQuote notBackslash (Nat.not_lt.mp notControl)

theorem Characters.escaped
    (chars : List Char)
    (rest : Octets) :
    Characters chars (octetsOf (chars.flatMap escape) ++ '"'.toUInt8 :: rest) rest := by
  induction chars with
  | nil =>
      rfl
  | cons c later inductionHypothesis =>
      rw [List.flatMap_cons, octetsOf_append, List.append_assoc]
      exact ⟨_, Character.escaped c _, inductionHypothesis⟩

/-! ## Values that are written -/

/-- A phrase may stand without blanks. -/
theorem Padded.tight
    {phrase : Phrase}
    {octets rest : Octets}
    (written : phrase octets rest) :
    Padded phrase octets rest :=
  ⟨octets, rest, Blanks.refl octets, written, Blanks.refl rest⟩

theorem Member.tight
    {key : String}
    {value : Json}
    {rest : Octets}
    (written : Value value (octetsOf value.chars ++ rest) rest) :
    Member key (Value value) ('"'.toUInt8 :: memberOctets key value rest) rest :=
  ⟨_, _, Padded.tight ⟨_, rfl, Characters.escaped key.toList _⟩, rfl, Padded.tight written⟩

mutual

/-- The writer gives a text of a value. -/
theorem Value.written
    {value : Json}
    (integral : value.Integral)
    (rest : Octets) :
    Value value (octetsOf value.chars ++ rest) rest := by
  match value with
  | .null | .bool true | .bool false =>
      rfl
  | .number (.integer value) =>
      exact ⟨integral.2, rfl⟩
  | .number (.real _) =>
      exact integral.1.elim
  | .string text =>
      rw [chars, octetsOf_stringText]
      exact ⟨_, rfl, Characters.escaped text.toList rest⟩
  | .array [] =>
      exact ⟨_, rfl, Blanks.refl _⟩
  | .array (item :: items) =>
      rw [octetsOf_array]
      exact ⟨_, _, rfl, Padded.tight (Value.written integral.1 _), Items.written integral.2 rest⟩
  | .object [] =>
      exact ⟨_, rfl, Blanks.refl _⟩
  | .object ((key, value) :: members) =>
      rw [octetsOf_object]
      exact ⟨_, _, rfl, Member.tight (Value.written integral.1 _),
        Members.written integral.2 rest⟩

theorem Items.written
    {items : List Json}
    (integral : IntegralItems items)
    (rest : Octets) :
    Items items (octetsOf (itemChars items) ++ rest) rest := by
  match items with
  | [] =>
      rfl
  | item :: items =>
      rw [octetsOf_itemChars]
      exact ⟨_, _, rfl, Padded.tight (Value.written integral.1 _), Items.written integral.2 rest⟩

theorem Members.written
    {members : List (String × Json)}
    (integral : IntegralMembers members)
    (rest : Octets) :
    Members members (octetsOf (memberChars members) ++ rest) rest := by
  match members with
  | [] =>
      rfl
  | (key, value) :: members =>
      rw [octetsOf_memberChars]
      exact ⟨_, _, rfl, Member.tight (Value.written integral.1 _),
        Members.written integral.2 rest⟩

end

end Grammar

namespace Json

open Lexeme Utf8 Grammar

/-- What is written for a value is a text of it. -/
theorem isWritten_render
    {value : Json}
    (integral : value.Integral) :
    value.IsWritten (encode value.render) := by
  have written := Value.written integral []
  rw [List.append_nil] at written
  rw [render, encode_ofList]
  exact Padded.tight written

mutual

/-- A well-formed value has no member whose key comes again. -/
theorem settled_of_wellFormed
    {value : Json}
    (wellFormed : value.WellFormed) :
    value.settled = value := by
  match value with
  | .null | .bool _ | .number _ | .string _ =>
      rfl
  | .array items =>
      rw [settled, settledItems_of_wellFormed wellFormed]
  | .object members =>
      rw [settled, settledMembers_of_wellFormed wellFormed.2,
        ofMembers_of_ascending wellFormed.1]

theorem settledItems_of_wellFormed
    {items : List Json}
    (wellFormed : WellFormedItems items) :
    settledItems items = items := by
  match items with
  | [] =>
      rfl
  | item :: items =>
      rw [settledItems, settled_of_wellFormed wellFormed.1,
        settledItems_of_wellFormed wellFormed.2]

theorem settledMembers_of_wellFormed
    {members : List (String × Json)}
    (wellFormed : WellFormedMembers members) :
    settledMembers members = members := by
  match members with
  | [] =>
      rfl
  | (key, value) :: members =>
      rw [settledMembers, settled_of_wellFormed wellFormed.1,
        settledMembers_of_wellFormed wellFormed.2]

end

/-! ## Values read back -/

/-- A text is read back from the string that it is written as. -/
theorem readText_escaped
    (text : String)
    {bound : Nat}
    {rest : Octets}
    (enough :
      (octetsOf (text.toList.flatMap escape) ++ '"'.toUInt8 :: rest).length ≤ bound) :
    readText bound (octetsOf (text.toList.flatMap escape) ++ '"'.toUInt8 :: rest) =
      .ok (text, rest) :=
  (Characters.escaped text.toList rest).readText enough

/-- A value that nests no deeper than the reader goes is read back. -/
theorem readValue_chars
    {value : Json}
    (wellFormed : value.WellFormed)
    (realFree : value.RealFree)
    {levels bound : Nat}
    (within : value.depth ≤ levels)
    {rest : Octets}
    (ends : EndsNumber rest)
    (enough : (octetsOf value.chars ++ rest).length ≤ bound) :
    readValue levels bound (octetsOf value.chars ++ rest) = .ok (value, rest) := by
  have integral := integral_of_wellFormed wellFormed realFree
  have read := @readValue_written value _ rest (Value.written integral rest) levels bound ends
    enough
  rw [settled_of_wellFormed wellFormed] at read
  exact (read.resolve_right fun ⟨beyond, _⟩ => beyond within).2

/-- A value that nests deeper than the reader goes is refused for its depth. -/
theorem readValue_tooDeep
    {value : Json}
    (wellFormed : value.WellFormed)
    (realFree : value.RealFree)
    {levels bound : Nat}
    (beyond : levels < value.depth)
    {rest : Octets}
    (ends : EndsNumber rest)
    (enough : (octetsOf value.chars ++ rest).length ≤ bound) :
    TooDeep (readValue levels bound (octetsOf value.chars ++ rest)) := by
  have integral := integral_of_wellFormed wellFormed realFree
  have read := @readValue_written value _ rest (Value.written integral rest) levels bound ends
    enough
  exact (read.resolve_left fun ⟨within, _⟩ => Nat.not_le.mpr beyond within).2

end Json

end SignalRelay
