import Mathlib.Data.List.DropRight
import SignalRelay.Proofs.Json.Record

namespace SignalRelay

/-!
# Skipping what can be read

A value that nobody asks for is checked no more strictly than one that is kept: where a text
field is read, the same octets can be skipped, with the same octets left.  A record that has
only the later fields of another is therefore read from every object from which that other is
read, and holds the same.
-/

open Lexeme

/-- Blanks in front of a string do not count. -/
theorem RecordForm.readString_skipBlanks
    (bound : Nat)
    (octets : Octets) :
    readString bound (skipBlanks octets) = readString bound octets := by
  have idle : skipBlanks (skipBlanks octets) = skipBlanks octets :=
    List.dropWhile_idempotent ..
  simp only [readString, idle]

namespace Skip

/-! ## Texts -/

/-- Four hexadecimal digits behind their letter are skipped. -/
theorem skipEscape_of_readHexFour
    {octets rest : Octets}
    {unit : Nat}
    (read : readHexFour octets = .ok (unit, rest)) :
    skipEscape ('u'.toUInt8 :: octets) = .ok rest := by
  have unnamed : escapedOctet? 'u'.toUInt8 = none := by decide
  simp [skipEscape, unnamed, read]

/-- The second half of a surrogate pair is an escape of its own. -/
theorem skipEscape_of_readLowSurrogate
    {high : Nat}
    {octets piece rest : Octets}
    (read : readLowSurrogate high octets = .ok (piece, rest)) :
    ∃ later, octets = '\\'.toUInt8 :: later ∧ skipEscape later = .ok rest := by
  match octets with
  | [] =>
      cases read
  | [backslash] =>
      simp only [readLowSurrogate] at read
      split at read <;> cases read
  | backslash :: letter :: following =>
      simp only [readLowSurrogate] at read
      split at read
      · cases read
      next isBackslash =>
        split at read
        · cases read
        next isLetter =>
          split at read
          · cases read
          next low digitsRead =>
            split at read
            · simp only [Except.ok.injEq, Prod.mk.injEq] at read
              obtain ⟨-, rfl⟩ := read
              obtain rfl := Decidable.of_not_not isBackslash
              obtain rfl := Decidable.of_not_not isLetter
              exact ⟨_, rfl, skipEscape_of_readHexFour digitsRead⟩
            · cases read

/-- An escape that is read is skipped in one piece, or in two if it is a surrogate pair. -/
theorem skipEscape_of_readEscape
    {octets piece rest : Octets}
    (read : readEscape octets = .ok (piece, rest)) :
    skipEscape octets = .ok rest ∨
      ∃ later,
        skipEscape octets = .ok ('\\'.toUInt8 :: later) ∧
          skipEscape later = .ok rest := by
  match octets with
  | [] =>
      cases read
  | letter :: following =>
      simp only [readEscape] at read
      split at read
      · next named =>
          cases read
          exact .inl (by simp [skipEscape, named])
      · split at read
        · next isUnicode =>
            rw [isUnicode]
            unfold readUnicodeEscape at read
            split at read
            · cases read
            next unit digitsRead =>
              split at read
              · cases read
              · split at read
                · obtain ⟨later, same, skipped⟩ := skipEscape_of_readLowSurrogate read
                  rw [same] at digitsRead
                  exact .inr ⟨later, skipEscape_of_readHexFour digitsRead, skipped⟩
                · cases read
                  exact .inl (skipEscape_of_readHexFour digitsRead)
        · cases read

/-- One escape is skipped in one round. -/
theorem skipText_of_skipEscape
    {octets rest : Octets}
    (skipped : skipEscape octets = .ok rest)
    (bound : Nat) :
    skipText (bound + 1) ('\\'.toUInt8 :: octets) = skipText bound rest := by
  have notQuote : '\\'.toUInt8 ≠ '"'.toUInt8 := by decide
  simp only [skipText, notQuote, ↓reduceIte, skipped]

/-- Content that is read is skipped, in at most twice as many rounds. -/
theorem skipText_of_readContent
    {bound : Nat}
    {content octets piece rest : Octets}
    (read : readContent bound content octets = .ok (piece, rest))
    {rounds : Nat}
    (enough : 2 * bound ≤ rounds) :
    skipText rounds octets = .ok rest := by
  induction bound generalizing content octets rounds with
  | zero =>
      cases read
  | succ bound inductionHypothesis =>
      -- A surrogate pair is read in one round and skipped in two.
      obtain ⟨rounds, rfl⟩ : ∃ fewer, rounds = fewer + 2 := ⟨rounds - 2, by omega⟩
      have fewerEnough : 2 * bound ≤ rounds := by omega
      match octets with
      | [] =>
          cases read
      | octet :: following =>
          simp only [readContent] at read
          split at read
          · next isQuote =>
              cases read
              simp [skipText, isQuote]
          next notQuote =>
            split at read
            · next isBackslash =>
                rw [isBackslash]
                split at read
                · next escape later escapeRead =>
                    rcases skipEscape_of_readEscape escapeRead with
                        whole | ⟨half, firstSkipped, secondSkipped⟩
                    · rw [skipText_of_skipEscape whole]
                      exact inductionHypothesis read (Nat.le_succ_of_le fewerEnough)
                    · rw [skipText_of_skipEscape firstSkipped,
                        skipText_of_skipEscape secondSkipped]
                      exact inductionHypothesis read fewerEnough
                · cases read
            next notBackslash =>
              split at read
              · cases read
              next notControl =>
                simp only [skipText, notQuote, notBackslash, notControl, ↓reduceIte]
                exact inductionHypothesis read (Nat.le_succ_of_le fewerEnough)

/-- A text that is read is skipped: its content need not even be well-formed. -/
theorem skipText_of_readText
    {bound : Nat}
    {octets rest : Octets}
    {text : String}
    (read : readText bound octets = .ok (text, rest))
    {rounds : Nat}
    (enough : 2 * bound ≤ rounds) :
    skipText rounds octets = .ok rest := by
  unfold readText at read
  split at read
  · cases read
  next content later contentRead =>
    split at read
    · cases read
      exact skipText_of_readContent contentRead enough
    · cases read

/-! ## Fields -/

/-- A value that starts and ends in one piece is skipped. -/
theorem skipValue_of_skipStart
    {bound : Nat}
    {octets rest : Octets}
    (whole : skipStart (2 * bound) octets = .ok (.whole rest)) :
    skipValue bound octets = .ok rest := by
  simp [skipValue, skipFrom, whole]

theorem skipStart_quote
    {bound : Nat}
    {octets later rest : Octets}
    (begins : skipBlanks octets = '"'.toUInt8 :: later)
    (skipped : skipText bound later = .ok rest) :
    skipStart bound octets = .ok (.whole rest) := by
  simp only [skipStart, begins, skipped]
  rfl

theorem skipStart_null
    {bound : Nat}
    {octets later rest : Octets}
    (begins : skipBlanks octets = 'n'.toUInt8 :: later)
    (skipped : readWord "ull".toList later = .ok rest) :
    skipStart bound octets = .ok (.whole rest) := by
  simp only [skipStart, begins, skipped]
  rfl

theorem skipValue_of_readString
    {bound : Nat}
    {octets rest : Octets}
    {text : String}
    (read : RecordForm.readString bound octets = .ok (text, rest)) :
    skipValue bound octets = .ok rest := by
  unfold RecordForm.readString at read
  split at read
  · cases read
  next octet later begins =>
    split at read
    · next isQuote =>
        subst isQuote
        exact skipValue_of_skipStart
          (skipStart_quote begins (skipText_of_readText read (Nat.le_refl _)))
    · exact ((RecordForm.gives_refuseValue (fun _ => False) _ _ _).of_ok read).elim

/-- A field that is read is skipped, unless it may hold any value. -/
theorem skipValue_of_readField
    {form : FieldForm}
    (textual : form ≠ .value)
    {bound : Nat}
    {octets rest : Octets}
    {content : FieldContent}
    (read : RecordForm.readField form bound octets = .ok (content, rest)) :
    skipValue bound octets = .ok rest := by
  have texted {octets : Octets}
      (read : RecordForm.textContent (RecordForm.readString bound octets) =
        .ok (content, rest)) :
      skipValue bound octets = .ok rest := by
    unfold RecordForm.textContent at read
    split at read
    · cases read
    next text later stringRead =>
      cases read
      exact skipValue_of_readString stringRead
  cases form with
  | text =>
      exact texted read
  | optionalText =>
      change RecordForm.readOptionalString bound octets = _ at read
      unfold RecordForm.readOptionalString at read
      split at read
      · cases read
      next octet later begins =>
        split at read
        · next isNull =>
            subst isNull
            split at read
            · cases read
            next wordRead =>
              cases read
              exact skipValue_of_skipStart (skipStart_null begins wordRead)
        · rw [← begins, RecordForm.readString_skipBlanks] at read
          exact texted read
  | value =>
      exact (textual rfl).elim

end Skip

namespace RecordForm

/-! ## Members -/

/-- The members of a record that lack no text are members of its parts that lack none. -/
theorem missingField?_append
    {skipped kept : List (String × FieldForm)}
    {own others : FieldContents}
    (sameLength : own.length = skipped.length) :
    missingField? (skipped ++ kept) (own ++ others) =
      (missingField? skipped own).or (missingField? kept others) := by
  induction skipped generalizing own with
  | nil =>
      cases own with
      | nil => simp [missingField?]
      | cons content later => cases sameLength
  | cons field fields inductionHypothesis =>
      cases own with
      | nil =>
          cases sameLength
      | cons content later =>
          have laterLength : later.length = fields.length := Nat.succ.inj sameLength
          obtain ⟨name, form⟩ := field
          cases form <;> cases content <;>
            simp [missingField?, inductionHypothesis laterLength]

/-- The value of a member that is read can be skipped, if it is a text. -/
theorem readOther_of_readKnown
    {form : FieldForm}
    (textual : form ≠ .value)
    {bound : Nat}
    {octets rest : Octets}
    {content : FieldContent}
    (read : readKnown form bound octets = .ok (content, rest)) :
    readOther bound octets = .ok rest := by
  unfold readKnown at read
  unfold readOther
  split at read
  · cases read
  · exact Skip.skipValue_of_readField textual read

/--
An object from which a record is read is read as well as a record without its first fields, if
these are texts: where one reader keeps a text the other skips it.
-/
theorem readMembers_of_append
    {skipped kept : List (String × FieldForm)}
    (textual : ∀ field ∈ skipped, field.2 ≠ .value)
    (apart : ∀ field ∈ skipped, ∀ other ∈ kept, field.1 ≠ other.1)
    {bound : Nat}
    {first : Bool}
    {own others contents : FieldContents}
    (sameLength : own.length = skipped.length)
    {octets rest : Octets}
    (read :
      readMembers (skipped ++ kept) bound first (own ++ others) octets =
        .ok (contents, rest)) :
    readMembers kept bound first others octets =
      .ok (contents.drop skipped.length, rest) := by
  induction bound generalizing first own others octets with
  | zero =>
      cases read
  | succ bound inductionHypothesis =>
      unfold readMembers at read ⊢
      split at read
      · cases read
      · rw [missingField?_append sameLength] at read
        split at read
        · cases read
        next complete =>
          cases read
          have keptComplete := (Option.or_eq_none_iff.mp complete).2
          simp [keptComplete, ← sameLength]
      · split at read
        · cases read
        next key keyed keyRead =>
          rw [List.findIdx?_append] at read
          cases inSkipped : skipped.findIdx? (·.1 == key) with
          | some index =>
              -- The key is one of those that the shorter record does not have.
              obtain ⟨inBounds, isKey, -⟩ := List.findIdx?_eq_some_iff_getElem.mp inSkipped
              have keyHere : skipped[index].1 = key := by simpa using isKey
              have notKept : kept.findIdx? (·.1 == key) = none := by
                rw [List.findIdx?_eq_none_iff]
                intro other member
                have different := apart skipped[index] (List.getElem_mem inBounds) other member
                rw [keyHere] at different
                simpa using different.symm
              simp only [inSkipped, Option.some_or] at read
              split at read
              · cases read
              split at read
              · cases read
              next content later knownRead =>
                rw [List.getElem?_append_left inBounds, List.getElem?_eq_getElem inBounds]
                  at knownRead
                have otherRead := readOther_of_readKnown
                  (textual _ (List.getElem_mem inBounds)) knownRead
                rw [List.set_append_left _ _ (sameLength ▸ inBounds)] at read
                simp only [notKept, otherRead]
                exact inductionHypothesis (by simpa using sameLength) read
          | none =>
              simp only [inSkipped, Option.none_or] at read
              cases inKept : kept.findIdx? (·.1 == key) with
              | none =>
                  simp only [inKept, Option.map_none] at read ⊢
                  split at read
                  · cases read
                  · exact inductionHypothesis sameLength read
              | some index =>
                  have place : own.length ≤ index + skipped.length := by omega
                  have shifted : index + skipped.length - own.length = index := by omega
                  simp only [inKept, Option.map_some, List.getElem?_append_right place,
                    shifted, List.getElem?_append_right (Nat.le_add_left ..),
                    Nat.add_sub_cancel, List.set_append_right _ _ place] at read ⊢
                  split at read
                  · cases read
                  next new =>
                    rw [if_neg new]
                    split at read
                    · cases read
                    · exact inductionHypothesis sameLength read

/-- The text begins with a brace: what it holds, if it can be read, is an object. -/
def OpensObject (text : Octets) : Prop :=
  (skipBlanks text).head? = some '{'.toUInt8

instance (text : Octets) : Decidable (OpensObject text) :=
  inferInstanceAs (Decidable (_ = _))

/-- A record is read from an object by its members, and nothing may follow them. -/
theorem ofOctets_eq_ok_iff
    {form : RecordForm}
    {text : Octets}
    (object : OpensObject text)
    {contents : FieldContents} :
    form.ofOctets text = .ok contents ↔
      ∃ rest,
        readMembers form.fields text.length true (form.fields.map fun _ => none)
            (skipBlanks text).tail = .ok (contents, rest) ∧
          Json.readEnd rest = .ok () := by
  obtain ⟨members, begins⟩ := List.head?_eq_some_iff.mp object
  have notBracket : '{'.toUInt8 ≠ '['.toUInt8 := by decide
  simp only [ofOctets, begins, notBracket, ↓reduceIte, List.tail_cons]
  cases readMembers form.fields text.length true (form.fields.map fun _ => none) members with
  | error fault =>
      simp
  | ok result =>
      obtain ⟨readContents, rest⟩ := result
      cases ended : Json.readEnd rest with
      | error fault =>
          simp only [ended]
          constructor
          · intro same
            cases same
          · rintro ⟨later, same, endedLater⟩
            cases same
            rw [ended] at endedLater
            cases endedLater
      | ok =>
          simp only [ended]
          constructor
          · intro same
            cases same
            exact ⟨rest, rfl, ended⟩
          · rintro ⟨later, same, -⟩
            cases same
            rfl

/-- An object that holds a record holds every record that lacks only first fields of it, if
these are texts. -/
theorem ofOctets_of_append
    {form shorter : RecordForm}
    {skipped : List (String × FieldForm)}
    (longer : form.fields = skipped ++ shorter.fields)
    (textual : ∀ field ∈ skipped, field.2 ≠ .value)
    (apart : ∀ field ∈ skipped, ∀ other ∈ shorter.fields, field.1 ≠ other.1)
    {text : Octets}
    (object : OpensObject text)
    {contents : FieldContents}
    (read : form.ofOctets text = .ok contents) :
    shorter.ofOctets text = .ok (contents.drop skipped.length) := by
  obtain ⟨rest, membersRead, ended⟩ := (ofOctets_eq_ok_iff object).mp read
  rw [longer, List.map_append] at membersRead
  exact (ofOctets_eq_ok_iff object).mpr
    ⟨rest, readMembers_of_append textual apart (by simp) membersRead, ended⟩

end RecordForm

end SignalRelay
