import SignalRelay.Proofs.Json.Fields
import SignalRelay.Proofs.Json.Skippable

namespace SignalRelay

open Lexeme Json

/-!
# Records read from documents

The reader of records goes through a document as it is written.  From every text of a document it
gives what the document gives for the fields, and it refuses the text if the document is no record:
members that are no fields are skipped, whatever their values are.
-/

/-! ## Reading one field -/

/-- A reading gives the result if there is one, and is refused otherwise. -/
def Reading.Yields {α : Type} (result : Option α) (rest : Octets) (reading : Reading α) : Prop :=
  match result with
  | some value => reading = .ok (value, rest)
  | none => ∃ fault, reading = .error fault

namespace Grammar

open Utf8

theorem Value.bracket
    {items : List Json}
    {octets rest : Octets}
    (written : Value (.array items) octets rest) :
    ∃ inside, octets = '['.toUInt8 :: inside := by
  cases items with
  | nil =>
      obtain ⟨inside, octets, -⟩ := written
      exact ⟨inside, octets⟩
  | cons =>
      obtain ⟨inside, -, octets, -⟩ := written
      exact ⟨inside, octets⟩

theorem Value.brace
    {members : List (String × Json)}
    {octets rest : Octets}
    (written : Value (.object members) octets rest) :
    ∃ inside, octets = '{'.toUInt8 :: inside := by
  cases members with
  | nil =>
      obtain ⟨inside, octets, -⟩ := written
      exact ⟨inside, octets⟩
  | cons =>
      obtain ⟨inside, -, octets, -⟩ := written
      exact ⟨inside, octets⟩

/-- The first octet of a value tells whether it is a string, `null`, an array or an object. -/
theorem Value.head
    {value : Json}
    {octet : UInt8}
    {later rest : Octets}
    (written : Value value (octet :: later) rest) :
    (octet = '"'.toUInt8 ↔ ∃ text, value = .string text) ∧
      (octet = 'n'.toUInt8 ↔ value = .null) ∧
      (octet = '['.toUInt8 ↔ ∃ items, value = .array items) ∧
      (octet = '{'.toUInt8 ↔ ∃ members, value = .object members) := by
  match value with
  | .null =>
      cases written
      exact ⟨iff_of_false (by decide) nofun, iff_of_true rfl rfl,
        iff_of_false (by decide) nofun, iff_of_false (by decide) nofun⟩
  | .bool true | .bool false =>
      cases written
      exact ⟨iff_of_false (by decide) nofun, iff_of_false (by decide) nofun,
        iff_of_false (by decide) nofun, iff_of_false (by decide) nofun⟩
  | .number (.integer value) =>
      obtain ⟨-, octets⟩ := written
      obtain ⟨first, digits, begins, signOrDigit⟩ := octetsOf_integer value
      rw [begins] at octets
      cases octets
      have other : ∀ different : UInt8,
          different ≠ '-'.toUInt8 → isDigit different = false → octet ≠ different := by
        rintro different notMinus noDigit rfl
        rcases signOrDigit with minus | digit
        · exact notMinus minus
        · rw [noDigit] at digit
          cases digit
      exact ⟨iff_of_false (other _ (by decide) rfl) nofun,
        iff_of_false (other _ (by decide) rfl) nofun,
        iff_of_false (other _ (by decide) rfl) nofun,
        iff_of_false (other _ (by decide) rfl) nofun⟩
  | .number (.real _) =>
      exact written.elim
  | .string text =>
      obtain ⟨inside, octets, -⟩ := written
      cases octets
      exact ⟨iff_of_true rfl ⟨text, rfl⟩, iff_of_false (by decide) nofun,
        iff_of_false (by decide) nofun, iff_of_false (by decide) nofun⟩
  | .array items =>
      obtain ⟨inside, octets⟩ := Value.bracket written
      cases octets
      exact ⟨iff_of_false (by decide) nofun, iff_of_false (by decide) nofun,
        iff_of_true rfl ⟨items, rfl⟩, iff_of_false (by decide) nofun⟩
  | .object members =>
      obtain ⟨inside, octets⟩ := Value.brace written
      cases octets
      exact ⟨iff_of_false (by decide) nofun, iff_of_false (by decide) nofun,
        iff_of_false (by decide) nofun, iff_of_true rfl ⟨members, rfl⟩⟩

end Grammar

namespace RecordForm

open Grammar

/-- What refuses a value yields nothing. -/
theorem yields_refuseValue
    {α : Type}
    (expected : String)
    (bound : Nat)
    (octets rest : Octets) :
    Reading.Yields none rest (refuseValue expected bound octets : Reading α) := by
  cases refused : (refuseValue expected bound octets : Reading α) with
  | error fault =>
      exact ⟨fault, rfl⟩
  | ok =>
      exact ((gives_refuseValue (fun _ => False) expected bound octets).of_ok refused).elim

/-- A string is read as its text, and nothing else is read as a string. -/
theorem readString_written
    {value : Json}
    {octets inside rest : Octets}
    (before : Blanks octets inside)
    (written : Value value inside rest)
    {bound : Nat}
    (enough : inside.length ≤ bound) :
    (readString bound octets).Yields value.text? rest := by
  unfold readString
  rw [before.skipped, skipBlanks_of_beginsValue written.begins]
  match inside, written with
  | [], written =>
      exact written.begins.elim
  | octet :: later, written =>
      dsimp only
      by_cases quote : octet = '"'.toUInt8
      · obtain ⟨text, rfl⟩ := written.head.1.mp quote
        obtain ⟨quoted, octets, characters⟩ := written
        cases octets
        exact (if_pos rfl).trans (characters.readText (Nat.le_of_succ_le enough))
      · have noText : value.text? = none := by
          cases value with
          | string text => exact (quote (written.head.1.mpr ⟨text, rfl⟩)).elim
          | _ => rfl
        rw [if_neg quote, noText]
        exact yields_refuseValue _ _ _ _

theorem yields_textContent
    {text : Option String}
    {rest : Octets}
    {reading : Reading String}
    (read : reading.Yields text rest) :
    (textContent reading).Yields (text.map .text) rest := by
  cases text with
  | none =>
      obtain ⟨fault, rfl⟩ := read
      exact ⟨fault, rfl⟩
  | some text =>
      cases read
      rfl

/-- A field is read from a value of its form, and from no other. -/
theorem readField_written
    (form : FieldForm)
    {value : Json}
    {octets inside rest : Octets}
    (before : Blanks octets inside)
    (written : Value value inside rest)
    (ends : EndsNumber rest)
    {bound : Nat}
    (enough : inside.length ≤ bound) :
    (readField form bound octets).Yields (form.content? value) rest := by
  cases form with
  | text =>
      have read := yields_textContent (readString_written before written enough)
      cases value <;> exact read
  | optionalText =>
      change (readOptionalString bound octets).Yields _ rest
      unfold readOptionalString
      rw [before.skipped, skipBlanks_of_beginsValue written.begins]
      match inside, written with
      | [], written =>
          exact written.begins.elim
      | octet :: later, written =>
          dsimp only
          by_cases letter : octet = 'n'.toUInt8
          · obtain rfl := written.head.2.1.mp letter
            cases written
            rfl
          · have notNull := mt written.head.2.1.mpr letter
            have read := yields_textContent
              (readString_written (Blanks.refl _) written enough)
            rw [if_neg letter]
            cases value with
            | null => exact (notNull rfl).elim
            | _ => exact read
  | value =>
      have same := readValue_of_skipBlanks before.skipped fieldDepth bound
      rcases @readValue_written value inside rest written fieldDepth bound ends enough with
          ⟨within, read⟩ | ⟨beyond, fault, refused, -⟩
      · simp only [readField, same, read, FieldForm.content?, if_pos within]
        rfl
      · simp only [readField, same, refused, FieldForm.content?, if_neg beyond]
        exact ⟨fault, rfl⟩

/-! ## Reading members -/

/-- A member takes one round: it is skipped, refused, or read into its field. -/
theorem readMembers_member
    {fields : List (String × FieldForm)}
    {contents : FieldContents}
    {bound : Nat}
    {first : Bool}
    {key : String}
    {value : Json}
    {octets quoted colon valued inside rest : Octets}
    (lead : readMemberLead first octets = .ok (true, quoted))
    (keyed : Characters key.toList quoted colon)
    (colonRead : readColon colon = .ok valued)
    (before : Blanks valued inside)
    (written : Value value inside rest)
    (ends : EndsNumber rest)
    (quotedEnough : quoted.length ≤ bound)
    (enough : inside.length ≤ bound) :
    match taken? fields contents key value with
    | some after =>
        readMembers fields (bound + 1) first contents octets =
          readMembers fields bound false after rest
    | none => ∃ fault, readMembers fields (bound + 1) first contents octets = .error fault := by
  have skipped : readOther bound colon = .ok rest := by
    simp only [readOther, colonRead]
    exact written.skipValue before ends enough
  have read : ∀ form, (readKnown form bound colon).Yields (form.content? value) rest := by
    intro form
    simp only [readKnown, colonRead]
    exact readField_written form before written ends enough
  simp only [taken?, readMembers, lead, keyed.readText quotedEnough]
  -- Whether the key is a field's decides which of the two readers of values goes on.
  cases found : fields.findIdx? (·.1 == key) with
  | none =>
      simp only [skipped]
  | some index =>
      dsimp only
      split_ifs with held
      · exact ⟨_, rfl⟩
      · have read := read ((fields[index]?.map (·.2)).getD .value)
        cases content : FieldForm.content? ((fields[index]?.map (·.2)).getD .value) value with
        | none =>
            rw [content] at read
            obtain ⟨fault, refused⟩ := read
            rw [refused]
            exact ⟨fault, rfl⟩
        | some content =>
            rw [content] at read
            rw [read]
            rfl

theorem readMemberLead_end
    (first : Bool)
    {octets rest : Octets}
    (closed : skipBlanks octets = '}'.toUInt8 :: rest) :
    readMemberLead first octets = .ok (false, rest) := by
  simp only [readMemberLead, closed, ↓reduceIte]

theorem readMemberLead_quote
    {octets quoted : Octets}
    (opened : skipBlanks octets = '"'.toUInt8 :: quoted) :
    readMemberLead true octets = .ok (true, quoted) := by
  have notEnd : '"'.toUInt8 ≠ '}'.toUInt8 := by decide
  simp only [readMemberLead, opened, notEnd, ↓reduceIte]

theorem readMemberLead_comma
    {octets inside quoted : Octets}
    (comma : skipBlanks octets = ','.toUInt8 :: inside)
    (opened : skipBlanks inside = '"'.toUInt8 :: quoted) :
    readMemberLead false octets = .ok (true, quoted) := by
  have notEnd : ','.toUInt8 ≠ '}'.toUInt8 := by decide
  simp only [readMemberLead, comma, notEnd, opened, Bool.false_eq_true, ↓reduceIte]

/-- Where the object ends, every text that has to be there was read. -/
theorem readMembers_end
    {fields : List (String × FieldForm)}
    {contents : FieldContents}
    (sameLength : contents.length = fields.length)
    (bound : Nat)
    (first : Bool)
    {octets rest : Octets}
    (closed : skipBlanks octets = '}'.toUInt8 :: rest) :
    (readMembers fields (bound + 1) first contents octets).Yields (filled? fields contents [])
      rest := by
  rw [filled?_nil sameLength]
  simp only [readMembers, readMemberLead_end first closed]
  cases missingField? fields contents with
  | none => rfl
  | some name => exact ⟨_, rfl⟩

/-- Where a member is read, the members behind it decide. -/
theorem readMembers_cons
    {fields : List (String × FieldForm)}
    (distinct : (fields.map (·.1)).Nodup)
    {contents : FieldContents}
    (sameLength : contents.length = fields.length)
    {key : String}
    {value : Json}
    {octets inside between rest : Octets}
    (member : Member key (Value value) inside between)
    (ends : EndsNumber between)
    {bound : Nat}
    (enough : inside.length ≤ bound + 1)
    {first : Bool}
    (lead : ∀ quoted, skipBlanks inside = '"'.toUInt8 :: quoted →
      readMemberLead first octets = .ok (true, quoted))
    {members : List (String × Json)}
    (later : ∀ (after : FieldContents) (octets : Octets),
      after.length = fields.length →
      Blanks octets between →
      (readMembers fields bound false after octets).Yields (filled? fields after members)
        rest) :
    (readMembers fields (bound + 1) first contents octets).Yields
      (filled? fields contents ((key, value) :: members)) rest := by
  obtain ⟨quoted, colon, valued, opened, quotedShorter, keyed, colonRead, valuedShorter,
    core, after, before, written, behind⟩ := member.opened
  have shorter := before.length_le
  have step := @readMembers_member fields contents bound first key value octets quoted colon
    valued core after (lead quoted opened) keyed colonRead before written
    (behind.endsNumber ends) (by omega) (by omega)
  rw [filled?_cons distinct sameLength]
  cases taken : taken? fields contents key value with
  | none =>
      rw [taken] at step
      exact step
  | some filled =>
      rw [taken] at step
      dsimp only at step
      rw [step]
      exact later filled after ((length_taken? taken).trans sameLength) behind

/-- The fields are filled by the members that follow, up to the closing brace. -/
theorem readMembers_written
    {fields : List (String × FieldForm)}
    (distinct : (fields.map (·.1)).Nodup)
    {contents : FieldContents}
    (sameLength : contents.length = fields.length)
    {members : List (String × Json)}
    {octets text rest : Octets}
    (blanks : Blanks octets text)
    (written : Members members text rest)
    {bound : Nat}
    (enough : text.length ≤ bound) :
    (readMembers fields bound false contents octets).Yields (filled? fields contents members)
      rest := by
  induction members generalizing contents octets text bound with
  | nil =>
      cases written
      obtain ⟨bound, rfl, -⟩ := exists_fewer enough
      exact readMembers_end sameLength bound false blanks.skipped
  | cons member members inductionHypothesis =>
      obtain ⟨key, value⟩ := member
      obtain ⟨inside, later, rfl, member, more⟩ := written
      have shorter := member.length_lt fun _ _ => Value.length_lt
      obtain ⟨bound, rfl, insideEnough⟩ := exists_fewer enough
      exact readMembers_cons distinct sameLength member more.endsNumber
        (Nat.le_succ_of_le insideEnough)
        (fun quoted => readMemberLead_comma blanks.skipped)
        (fun after octets afterLength behind =>
          inductionHypothesis afterLength behind more (by omega))

/-- An object is read behind its opening brace. -/
theorem readMembers_object
    {fields : List (String × FieldForm)}
    (distinct : (fields.map (·.1)).Nodup)
    {members : List (String × Json)}
    {octets rest : Octets}
    (written : Value (.object members) ('{'.toUInt8 :: octets) rest)
    {bound : Nat}
    (enough : octets.length ≤ bound) :
    (readMembers fields bound true (fields.map fun _ => none) octets).Yields
      (filled? fields (fields.map fun _ => none) members) rest := by
  have sameLength : (fields.map fun _ => (none : Option FieldContent)).length =
      fields.length := List.length_map ..
  match members with
  | [] =>
      obtain ⟨inside, same, blanks⟩ := written
      cases same
      have shorter := blanks.length_le
      obtain ⟨bound, rfl, -⟩ := exists_fewer (Nat.le_trans shorter enough)
      exact readMembers_end sameLength bound true blanks.skipped
  | (key, value) :: members =>
      obtain ⟨inside, later, same, member, more⟩ := written
      cases same
      have shorter := member.length_lt fun _ _ => Value.length_lt
      obtain ⟨bound, rfl, -⟩ := exists_fewer (Nat.le_trans (Nat.succ_le_of_lt shorter) enough)
      exact readMembers_cons distinct sameLength member more.endsNumber enough
        (fun quoted => readMemberLead_quote)
        (fun after octets afterLength behind =>
          readMembers_written distinct afterLength behind more (by omega))

/-! ## Reading elements -/

theorem readItemLead_end
    (first : Bool)
    {octets rest : Octets}
    (closed : skipBlanks octets = ']'.toUInt8 :: rest) :
    readItemLead first octets = .ok (false, ']'.toUInt8 :: rest) := by
  simp only [readItemLead, closed, ↓reduceIte]

theorem readItemLead_first
    {octets inside : Octets}
    (same : skipBlanks octets = skipBlanks inside)
    (begins : BeginsValue inside) :
    readItemLead true octets = .ok (true, inside) := by
  cases inside with
  | nil =>
      exact begins.elim
  | cons octet later =>
      simp only [readItemLead, same, skipBlanks_of_beginsValue begins, begins.2, ↓reduceIte]

theorem readItemLead_comma
    {octets later inside : Octets}
    (comma : skipBlanks octets = ','.toUInt8 :: later)
    (same : skipBlanks later = skipBlanks inside)
    (begins : BeginsValue inside) :
    readItemLead false octets = .ok (true, inside) := by
  have notEnd : ','.toUInt8 ≠ ']'.toUInt8 := by decide
  cases inside with
  | nil =>
      exact begins.elim
  | cons octet following =>
      simp only [readItemLead, comma, notEnd, same, skipBlanks_of_beginsValue begins, begins.2,
        Bool.false_eq_true, ↓reduceIte]

/-- Nothing but the end may follow the last element of a record. -/
theorem readListEnd_refused
    {octets later : Octets}
    {octet : UInt8}
    (begins : skipBlanks octets = octet :: later)
    (notEnd : octet ≠ ']'.toUInt8) :
    ∃ fault, readListEnd octets = .error fault := by
  simp only [readListEnd, begins, notEnd, ↓reduceIte]
  split
  · split
    · exact ⟨_, rfl⟩
    · split <;> exact ⟨_, rfl⟩
  · exact ⟨_, rfl⟩

/-- Elements that are missing leave their fields empty, unless one has to hold a text. -/
theorem toOption_missingItems
    (expected : String)
    (index : Nat)
    (rest : Octets)
    (fields : List (String × FieldForm)) :
    (missingItems expected index rest fields).toOption = ordered? fields [] := by
  induction fields generalizing index with
  | nil =>
      rfl
  | cons field fields inductionHypothesis =>
      obtain ⟨name, form⟩ := field
      have later := inductionHypothesis (index + 1)
      cases form with
      | text =>
          rfl
      | optionalText | value =>
          change ((missingItems expected (index + 1) rest fields).map (none :: ·)).toOption =
            (ordered? fields []).map (none :: ·)
          rw [← later]
          cases missingItems expected (index + 1) rest fields <;> rfl

/-- Where the array ends, the fields that are left are missing. -/
theorem readItems_end
    (fields : List (String × FieldForm))
    (expected : String)
    (bound index : Nat)
    {octets rest : Octets}
    (closed : skipBlanks octets = ']'.toUInt8 :: rest) :
    (readItems expected bound index fields octets).Yields (ordered? fields []) rest := by
  cases fields with
  | nil =>
      simp only [readItems, readListEnd, closed, ↓reduceIte]
      rfl
  | cons field fields =>
      have missing := toOption_missingItems expected index rest (field :: fields)
      simp only [readItems, readItemLead_end _ closed, List.drop_one, List.tail_cons, ← missing]
      cases missingItems expected index rest (field :: fields) with
      | error fault => exact ⟨fault, rfl⟩
      | ok contents => rfl

/-- Where an element is read, the elements behind it decide. -/
theorem readItems_cons
    {fields : List (String × FieldForm)}
    {name : String}
    {form : FieldForm}
    {expected : String}
    {bound index : Nat}
    {octets inside between rest : Octets}
    (lead : readItemLead (index == 0) octets = .ok (true, inside))
    {item : Json}
    (written : Value item inside between)
    (ends : EndsNumber between)
    (enough : inside.length ≤ bound)
    {items : List Json}
    (later : (readItems expected bound (index + 1) fields between).Yields
      (ordered? fields items) rest) :
    (readItems expected bound index ((name, form) :: fields) octets).Yields
      (ordered? ((name, form) :: fields) (item :: items)) rest := by
  have read := readField_written form (Blanks.refl inside) written ends enough
  change Reading.Yields
    (((form.content? item).map some).bind fun content =>
      (ordered? fields items).map (content :: ·)) rest _
  simp only [readItems, lead]
  cases given : form.content? item with
  | none =>
      rw [given] at read
      obtain ⟨fault, refused⟩ := read
      rw [refused]
      exact ⟨fault, rfl⟩
  | some content =>
      rw [given] at read
      rw [read]
      cases others : ordered? fields items with
      | none =>
          rw [others] at later
          obtain ⟨fault, refused⟩ := later
          dsimp only
          rw [refused]
          exact ⟨fault, rfl⟩
      | some contents =>
          rw [others] at later
          dsimp only
          rw [later]
          rfl

/-- The fields are read from the elements that follow, up to the closing bracket. -/
theorem readItems_written
    (fields : List (String × FieldForm))
    (expected : String)
    (index : Nat)
    {items : List Json}
    {octets text rest : Octets}
    (blanks : Blanks octets text)
    (written : Items items text rest)
    {bound : Nat}
    (enough : text.length ≤ bound) :
    (readItems expected bound (index + 1) fields octets).Yields (ordered? fields items) rest := by
  induction fields generalizing index items octets text with
  | nil =>
      cases items with
      | nil =>
          cases written
          exact readItems_end [] expected bound (index + 1) blanks.skipped
      | cons item items =>
          obtain ⟨inside, later, rfl, -⟩ := written
          obtain ⟨fault, refused⟩ := readListEnd_refused blanks.skipped (by decide)
          simp only [readItems, refused]
          exact ⟨fault, rfl⟩
  | cons field fields inductionHypothesis =>
      cases items with
      | nil =>
          cases written
          exact readItems_end (field :: fields) expected bound (index + 1) blanks.skipped
      | cons item items =>
          obtain ⟨inside, later, rfl, ⟨core, after, before, itemWritten, behind⟩, more⟩ := written
          have shorter := before.length_le
          have itemShorter := itemWritten.length_lt
          have laterShorter := behind.length_le
          rw [List.length_cons] at enough
          refine readItems_cons ?_ itemWritten (behind.endsNumber more.endsNumber) (by omega)
            (inductionHypothesis (index + 1) behind more (by omega))
          exact readItemLead_comma blanks.skipped before.skipped itemWritten.begins

/-- An array is read behind its opening bracket. -/
theorem readItems_array
    (fields : List (String × FieldForm))
    (expected : String)
    {items : List Json}
    {octets rest : Octets}
    (written : Value (.array items) ('['.toUInt8 :: octets) rest)
    {bound : Nat}
    (enough : octets.length ≤ bound) :
    (readItems expected bound 0 fields octets).Yields (ordered? fields items) rest := by
  match items, fields with
  | [], fields =>
      obtain ⟨inside, same, blanks⟩ := written
      cases same
      exact readItems_end fields expected bound 0 blanks.skipped
  | item :: items, [] =>
      obtain ⟨inside, later, same, ⟨core, after, before, itemWritten, behind⟩, more⟩ := written
      cases same
      match core, itemWritten.begins with
      | octet :: following, begins =>
          obtain ⟨fault, refused⟩ := readListEnd_refused
            (before.skipped.trans (skipBlanks_of_beginsValue begins)) begins.2
          simp only [readItems, refused]
          exact ⟨fault, rfl⟩
  | item :: items, (name, form) :: fields =>
      obtain ⟨inside, later, same, ⟨core, after, before, itemWritten, behind⟩, more⟩ := written
      cases same
      have shorter := before.length_le
      have itemShorter := itemWritten.length_lt
      have laterShorter := behind.length_le
      refine readItems_cons ?_ itemWritten (behind.endsNumber more.endsNumber) (by omega)
        (readItems_written fields expected 0 behind more (by omega))
      exact readItemLead_first before.skipped itemWritten.begins

/-! ## Reading the document -/

/-- Nothing may follow a record that was read. -/
def ended (result : FieldContents × Octets) : Except Fault FieldContents :=
  (readEnd result.2).map fun _ => result.1

theorem ofOctets_bracket
    (form : RecordForm)
    {text rest : Octets}
    (begins : skipBlanks text = '['.toUInt8 :: rest) :
    form.ofOctets text =
      (readItems form.arrayName text.length 0 form.fields rest).bind ended := by
  simp only [ofOctets, begins, ↓reduceIte]
  cases readItems form.arrayName text.length 0 form.fields rest with
  | error => rfl
  | ok result =>
      dsimp only [Except.bind, ended]
      cases readEnd result.2 <;> rfl

theorem ofOctets_brace
    (form : RecordForm)
    {text rest : Octets}
    (begins : skipBlanks text = '{'.toUInt8 :: rest) :
    form.ofOctets text =
      (readMembers form.fields text.length true (form.fields.map fun _ => none) rest).bind
        ended := by
  have notBracket : '{'.toUInt8 ≠ '['.toUInt8 := by decide
  simp only [ofOctets, begins, notBracket, ↓reduceIte]
  cases readMembers form.fields text.length true (form.fields.map fun _ => none) rest with
  | error => rfl
  | ok result =>
      dsimp only [Except.bind, ended]
      cases readEnd result.2 <;> rfl

/-- A document that is neither an array nor an object is refused. -/
theorem ofOctets_other
    (form : RecordForm)
    {text rest : Octets}
    {octet : UInt8}
    (begins : skipBlanks text = octet :: rest)
    (notBracket : octet ≠ '['.toUInt8)
    (notBrace : octet ≠ '{'.toUInt8) :
    (form.ofOctets text).toOption = none := by
  simp only [ofOctets, begins, notBracket, notBrace, ↓reduceIte]
  obtain ⟨fault, refused⟩ :=
    @yields_refuseValue FieldContents form.name text.length (octet :: rest) rest
  rw [refused]
  rfl

theorem toOption_bind_ended
    {result : Option FieldContents}
    {rest : Octets}
    {reading : Reading FieldContents}
    (read : reading.Yields result rest)
    (blanks : Blanks rest []) :
    (reading.bind ended).toOption = result := by
  have nothing : readEnd rest = .ok () := by
    simp only [readEnd, blanks.skipped]
    rfl
  cases result with
  | none =>
      obtain ⟨fault, rfl⟩ := read
      rfl
  | some contents =>
      cases read
      simp only [Except.bind, ended, nothing]
      rfl

/-- A document is read as what it gives for the fields of the record, and refused if it is not
one. -/
theorem toOption_ofOctets_written
    (form : RecordForm)
    (distinct : (form.fields.map (·.1)).Nodup)
    {document : Json}
    {octets : Octets}
    (written : document.IsWritten octets) :
    (form.ofOctets octets).toOption = form.presented? document := by
  obtain ⟨inside, rest, before, written, behind⟩ := written
  have shorter := before.length_le
  have begins := before.skipped.trans (skipBlanks_of_beginsValue written.begins)
  cases document with
  | array items =>
      obtain ⟨later, rfl⟩ := Value.bracket written
      rw [List.length_cons] at shorter
      rw [ofOctets_bracket form begins]
      exact toOption_bind_ended
        (readItems_array form.fields form.arrayName written (by omega)) behind
  | object members =>
      obtain ⟨later, rfl⟩ := Value.brace written
      rw [List.length_cons] at shorter
      rw [ofOctets_brace form begins]
      exact toOption_bind_ended (readMembers_object distinct written (by omega)) behind
  | null | bool | number | string =>
      match inside, written with
      | [], written =>
          exact written.begins.elim
      | octet :: later, written =>
          obtain ⟨-, -, arrayHead, objectHead⟩ := written.head
          exact ofOctets_other form begins (fun bracket => nomatch arrayHead.mp bracket)
            (fun brace => nomatch objectHead.mp brace)

end RecordForm

end SignalRelay
