import SignalRelay.Json.Report
import SignalRelay.Proofs.Json.Record
import SignalRelay.Proofs.Kind

namespace SignalRelay

/-!
# Messages read back

A message is read back from its text, unless its payload nests deeper than the reader
goes: then it is refused for that.  The writer has no such limit.  A message that was read
never nests too deep, so it survives being written and read again.
-/

namespace Message

open Json Lexeme RecordForm Utf8

/-! ## The text of a message -/

/-- The member for a text that may be missing. -/
def textMember (key : String) (text : Option String) : List (String × Json) :=
  match text with
  | some text => [(key, .string text)]
  | none => []

/-- The member for a payload. -/
def payloadMember (payload : Json) : List (String × Json) :=
  if payload.isNull then [] else [("payload", payload)]

/-- The octets of a message: the kind, and then what is present of the rest. -/
theorem encode_toText
    (message : Message) :
    encode message.toText =
      '{'.toUInt8 :: '"'.toUInt8 ::
        memberOctets "type" (.string message.kind.text)
          (octetsOf (memberChars (textMember "src" message.source ++
            (textMember "dst" message.destination ++ payloadMember message.payload)))) := by
  have members : message.members =
      ("type", .string message.kind.text) :: (textMember "src" message.source ++
        (textMember "dst" message.destination ++ payloadMember message.payload)) := by
    rw [← List.append_assoc]
    rfl
  have octets := octetsOf_object "type" (.string message.kind.text)
    (textMember "src" message.source ++
      (textMember "dst" message.destination ++ payloadMember message.payload)) []
  rw [List.append_nil, List.append_nil] at octets
  rw [toText, render, encode_ofList, members, octets]

/-- The text of a message tells its kind. -/
theorem kind_text_of_toText
    {first second : Message}
    (same : first.toText = second.toText) :
    first.kind.text = second.kind.text := by
  have octets := congrArg encode same
  rw [encode_toText, encode_toText, List.cons.injEq, List.cons.injEq] at octets
  have values := List.append_cancel_left octets.2.2
  rw [List.cons.injEq, List.cons.injEq] at values
  generalize octetsOf (memberChars (textMember "src" first.source ++
    (textMember "dst" first.destination ++ payloadMember first.payload))) = rest at values
  have firstRead := @readField_text first.kind.text _ rest (Nat.le_refl _)
  rw [values.2.2, readField_text second.kind.text (Nat.le_refl _)] at firstRead
  simp only [Except.ok.injEq, Prod.mk.injEq, FieldContent.text.injEq] at firstRead
  exact firstRead.1.symm

/-! ## The fields of a message, one after another -/

/-- A text that may be missing is read into its field; nothing is if there is none. -/
theorem readMembers_textMember
    {index : Nat}
    {key : String}
    (found : form.fields.findIdx? (·.1 == key) = some index)
    (formed : form.fields[index]? = some (key, .optionalText))
    {contents : FieldContents}
    (unwritten : contents[index]? = some none)
    (text : Option String)
    (members : List (String × Json))
    {bound : Nat}
    (enough :
      (octetsOf (memberChars (textMember key text ++ members))).length ≤ bound) :
    ∃ fewer,
      (octetsOf (memberChars members)).length ≤ fewer ∧
        readMembers form.fields bound false contents
            (octetsOf (memberChars (textMember key text ++ members))) =
          readMembers form.fields fewer false
            (contents.set index (text.map FieldContent.text))
            (octetsOf (memberChars members)) := by
  cases text with
  | none =>
      refine ⟨bound, enough, ?_⟩
      have same : contents.set index none = contents := by
        obtain ⟨inside, value⟩ := List.getElem?_eq_some_iff.mp unwritten
        rw [← value]
        exact List.set_getElem_self inside
      rw [Option.map_none, same]
      rfl
  | some text =>
      have octets := octetsOf_memberChars key (.string text) members []
      rw [List.append_nil, List.append_nil] at octets
      change (octetsOf (memberChars ((key, .string text) :: members))).length ≤ bound
        at enough
      rw [octets] at enough
      obtain ⟨fewer, rfl, quoteEnough⟩ := exists_fewer enough
      have memberEnough := Nat.le_of_succ_le quoteEnough
      have valueEnough := length_value_le memberEnough
      refine ⟨fewer, length_rest_le valueEnough, ?_⟩
      change readMembers _ _ _ _ (octetsOf (memberChars ((key, .string text) :: members))) = _
      rw [octets, readMembers_memberOctets found formed (by rw [unwritten]; rfl)
        memberEnough rfl, readField_optionalText text valueEnough]
      rfl

/-- What reading comes to once the members have been read. -/
def completed : Reading FieldContents → Except Fault FieldContents
  | .error fault => .error fault
  | .ok (contents, rest) =>
      match readEnd rest with
      | .error fault => .error fault
      | .ok () => .ok contents

/-- The text of a message is read like its payload alone, once the kind, the source and the
destination are in their fields. -/
theorem ofOctets_encode_toText
    (message : Message) :
    ∃ bound,
      (octetsOf (memberChars (payloadMember message.payload))).length ≤ bound ∧
        form.ofOctets (encode message.toText) =
          completed
            (readMembers form.fields bound false
              [some (.text message.kind.text), message.source.map FieldContent.text,
                message.destination.map FieldContent.text, none]
              (octetsOf (memberChars (payloadMember message.payload)))) := by
  have opened : ∀ body : Octets,
      form.ofOctets ('{'.toUInt8 :: '"'.toUInt8 :: body) =
        completed
          (readMembers form.fields (body.length + 1 + 1) true [none, none, none, none]
            ('"'.toUInt8 :: body)) :=
    fun _ => rfl
  rw [encode_toText, opened]
  generalize body :
    memberOctets "type" (.string message.kind.text)
      (octetsOf (memberChars (textMember "src" message.source ++
        (textMember "dst" message.destination ++ payloadMember message.payload)))) = octets
  -- From here on the bound only has to be large enough.
  have enough : octets.length ≤ octets.length + 1 := Nat.le_succ _
  generalize octets.length + 1 = bound at enough ⊢
  subst body
  have kindEnough := length_value_le enough
  obtain ⟨sourceBound, sourceEnough, sourceRead⟩ :=
    @readMembers_textMember 1 "src" rfl rfl
      [some (.text message.kind.text), none, none, none] rfl message.source
      (textMember "dst" message.destination ++ payloadMember message.payload) bound
      (length_rest_le kindEnough)
  obtain ⟨destinationBound, destinationEnough, destinationRead⟩ :=
    @readMembers_textMember 2 "dst" rfl rfl
      [some (.text message.kind.text), message.source.map FieldContent.text, none, none] rfl
      message.destination (payloadMember message.payload) sourceBound sourceEnough
  refine ⟨destinationBound, destinationEnough, ?_⟩
  rw [@readMembers_memberOctets form.fields 0 "type" .text rfl rfl _ rfl _ _ _ enough _ _ rfl,
    readField_text message.kind.text kindEnough]
  exact congrArg completed (sourceRead.trans destinationRead)

/-- With a payload, the payload decides. -/
theorem ofOctets_encode_toText_of_payload
    {message : Message}
    (present : message.payload ≠ .null) :
    ∃ bound,
      (octetsOf message.payload.chars ++ octetsOf (memberChars [])).length ≤ bound ∧
        form.ofOctets (encode message.toText) =
          match readValue fieldDepth bound
              (octetsOf message.payload.chars ++ octetsOf (memberChars [])) with
          | .error fault => .error fault
          | .ok (value, rest) =>
              completed
                (readMembers form.fields bound false
                  [some (.text message.kind.text), message.source.map FieldContent.text,
                    message.destination.map FieldContent.text, some (.value value)]
                  rest) := by
  obtain ⟨bound, enough, read⟩ := ofOctets_encode_toText message
  have member : payloadMember message.payload = [("payload", message.payload)] :=
    if_neg fun null => present (isNull_iff.mp null)
  have octets := octetsOf_memberChars "payload" message.payload [] []
  rw [List.append_nil, List.append_nil] at octets
  rw [member, octets] at enough read
  obtain ⟨bound, rfl, quoteEnough⟩ := exists_fewer enough
  have memberEnough := Nat.le_of_succ_le quoteEnough
  refine ⟨bound, length_value_le memberEnough, ?_⟩
  rw [read, @readMembers_memberOctets form.fields 3 "payload" .value rfl rfl _ rfl _ _ _
    memberEnough _ _ rfl]
  unfold readField
  cases readValue fieldDepth bound
    (octetsOf message.payload.chars ++ octetsOf (memberChars [])) <;> rfl

/-! ## Round trips -/

theorem ofContents_fields
    {message : Message}
    (canonical : message.kind.Canonical)
    {payload : Option FieldContent}
    (same : FieldContent.json payload = message.payload) :
    ofContents
        [some (.text message.kind.text), message.source.map FieldContent.text,
          message.destination.map FieldContent.text, payload] =
      message := by
  have kindRead := MessageKind.ofText_text canonical
  have kindText : FieldContent.text? (some (.text message.kind.text)) =
      some message.kind.text := rfl
  have textRead : ∀ text : Option String,
      FieldContent.text? (text.map FieldContent.text) = text := by
    intro text
    cases text <;> rfl
  simp only [ofContents, List.getElem?_cons_zero, List.getElem?_cons_succ, Option.join_some,
    kindText, Option.getD_some, kindRead, textRead, same]

/-- A message whose payload nests no deeper than fields may is read back from its text. -/
theorem ofText_toText
    {message : Message}
    (canonical : message.kind.Canonical)
    (wellFormed : message.payload.WellFormed)
    (realFree : message.payload.RealFree)
    (within : message.payload.depth ≤ fieldDepth) :
    ofText message.toText = .ok message := by
  unfold ofText ofOctets
  by_cases null : message.payload = .null
  · obtain ⟨bound, enough, read⟩ := ofOctets_encode_toText message
    have nothing : payloadMember message.payload = [] := if_pos (isNull_iff.mpr null)
    rw [nothing] at enough read
    obtain ⟨bound, rfl, -⟩ := exists_fewer enough
    rw [read]
    exact congrArg Except.ok (ofContents_fields canonical null.symm)
  · obtain ⟨bound, enough, read⟩ := ofOctets_encode_toText_of_payload null
    have ends : EndsNumber (octetsOf (memberChars [])) := ⟨rfl, by decide, rfl⟩
    have valueRead := readValue_chars wellFormed realFree within ends enough
    obtain ⟨bound, rfl, -⟩ := exists_fewer (length_rest_le enough)
    rw [read, valueRead]
    exact congrArg Except.ok (ofContents_fields canonical rfl)

/-- A message whose payload nests deeper is refused for its depth. -/
theorem ofText_toText_tooDeep
    {message : Message}
    (wellFormed : message.payload.WellFormed)
    (realFree : message.payload.RealFree)
    (beyond : fieldDepth < message.payload.depth) :
    ∃ fault, ofText message.toText = .error fault ∧ fault.reason = .tooDeep := by
  have present : message.payload ≠ .null := by
    intro null
    rw [null] at beyond
    exact Nat.not_lt_zero _ beyond
  obtain ⟨bound, enough, read⟩ := ofOctets_encode_toText_of_payload present
  have ends : EndsNumber (octetsOf (memberChars [])) := ⟨rfl, by decide, rfl⟩
  obtain ⟨fault, refused, reason⟩ := readValue_tooDeep wellFormed realFree beyond ends enough
  refine ⟨fault, ?_, reason⟩
  unfold ofText ofOctets
  rw [read, refused]
  rfl

/-- The payload of a message that was read is well-formed and nests no deeper than fields
may. -/
theorem payload_wellFormed_of_ofOctets
    {octets : Octets}
    {message : Message}
    (read : ofOctets octets = .ok message) :
    message.payload.WellFormedWithin fieldDepth := by
  unfold ofOctets at read
  cases contents : form.ofOctets octets with
  | error fault =>
      rw [contents] at read
      cases read
  | ok fields =>
      rw [contents] at read
      cases read
      exact FieldContents.wellFormed_json (wellFormed_of_ofOctets contents) 3

/--
Writing and reading messages without binary64 numbers.  A message whose kind is canonical is
read back exactly if its payload nests at most 126 deep, and refused with a syntax error for
the depth if it nests deeper.  A message that was read from any octets is read again from
its text.
-/
theorem codec_roundtrip :
    (∀ message : Message,
      message.kind.Canonical →
      message.payload.WellFormed →
      message.payload.RealFree →
      (message.payload.depth ≤ 126 → ofText message.toText = .ok message) ∧
        (126 < message.payload.depth →
          ∃ fault,
            ofText message.toText = .error fault ∧
              fault.reason = .tooDeep ∧
              fault.reason.faultClass = .syntactic ∧
              fault.reason.text = "recursion limit exceeded")) ∧
      ∀ (octets : Octets) (message : Message),
        ofOctets octets = .ok message →
        message.payload.RealFree →
        ofOctets (encode message.toText) = .ok message := by
  constructor
  · intro message canonical wellFormed realFree
    constructor
    · intro within
      exact ofText_toText canonical wellFormed realFree within
    · intro beyond
      obtain ⟨fault, refused, reason⟩ := ofText_toText_tooDeep wellFormed realFree beyond
      refine ⟨fault, refused, reason, ?_, ?_⟩
      · rw [reason]
        rfl
      · rw [reason]
        rfl
  · intro octets message read realFree
    obtain ⟨wellFormed, within⟩ := payload_wellFormed_of_ofOctets read
    exact ofText_toText (kind_canonical_of_ofOctets read) wellFormed realFree within

/-- The least 64-bit integer inside a number of arrays. -/
def nested : Nat → Json
  | 0 => .number (.integer (-0x8000000000000000))
  | levels + 1 => .array [nested levels]

theorem nested_spec
    (levels : Nat) :
    (nested levels).WellFormed ∧ (nested levels).RealFree ∧ (nested levels).depth = levels := by
  induction levels with
  | zero =>
      exact ⟨⟨by decide, by decide⟩, trivial, rfl⟩
  | succ levels inductionHypothesis =>
      obtain ⟨wellFormed, realFree, depth⟩ := inductionHypothesis
      refine ⟨⟨wellFormed, trivial⟩, ⟨realFree, trivial⟩, ?_⟩
      simp [nested, Json.depth, depthItems, depth]

/-- On either side of the greatest depth, and for a text that is not how it is written. -/
theorem codec_roundtrip_at_greatest_depth :
    ofText (toText ⟨.other "größe\n", some "", none, nested 126⟩) =
        .ok ⟨.other "größe\n", some "", none, nested 126⟩ ∧
      (∃ fault,
        ofText (toText ⟨.offer, none, some "b", nested 127⟩) = .error fault ∧
          fault.reason = .tooDeep) ∧
      ofOctets (encode (toText ⟨.offer, none, some "bé", .null⟩)) =
        .ok ⟨.offer, none, some "bé", .null⟩ := by
  obtain ⟨written, read⟩ := codec_roundtrip
  obtain ⟨wellFormed, realFree, depth⟩ := nested_spec 126
  obtain ⟨deepWellFormed, deepRealFree, deepDepth⟩ := nested_spec 127
  refine ⟨?_, ?_, ?_⟩
  · exact (written ⟨.other "größe\n", some "", none, nested 126⟩ (by decide) wellFormed
      realFree).1 (Nat.le_of_eq depth)
  · obtain ⟨fault, refused, reason, -⟩ :=
      (written ⟨.offer, none, some "b", nested 127⟩ (by decide) deepWellFormed
        deepRealFree).2 (Nat.lt_of_lt_of_eq (by decide) deepDepth.symm)
    exact ⟨fault, refused, reason⟩
  · exact read (encode "[ \"OFFER\", null, \"b\\u00e9\" ]")
      ⟨.offer, none, some "bé", .null⟩ rfl trivial

end Message

end SignalRelay
