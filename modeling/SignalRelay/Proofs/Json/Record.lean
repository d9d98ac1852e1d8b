import SignalRelay.Proofs.Json.Readings
import SignalRelay.Proofs.Json.RoundTrip

namespace SignalRelay

/-!
# Records read

What the reader of records gives, and how it goes on at a member that was written by the
writer of objects.
-/

/-- A value in a field is well-formed and nests no deeper than fields may. -/
def FieldContent.WellFormed : FieldContent → Prop
  | .value json => json.WellFormedWithin RecordForm.fieldDepth
  | .text _ | .absent => True

/-- All fields that were written hold well-formed contents. -/
def FieldContents.WellFormed (contents : FieldContents) : Prop :=
  ∀ content, some content ∈ contents → content.WellFormed

namespace FieldContents

theorem wellFormed_none
    (fields : List (String × FieldForm)) :
    WellFormed (fields.map fun _ => none) := by
  intro content member
  obtain ⟨field, -, impossible⟩ := List.mem_map.mp member
  cases impossible

theorem wellFormed_set
    {contents : FieldContents}
    (wellFormed : WellFormed contents)
    {content : FieldContent}
    (contentWellFormed : content.WellFormed)
    (index : Nat) :
    WellFormed (contents.set index (some content)) := by
  intro other member
  rcases List.mem_or_eq_of_mem_set member with kept | written
  · exact wellFormed other kept
  · cases written
    exact contentWellFormed

/-- The value of a field that holds nothing else is well-formed. -/
theorem wellFormed_json
    {contents : FieldContents}
    (wellFormed : WellFormed contents)
    (index : Nat) :
    (FieldContent.json contents[index]?.join).WellFormedWithin RecordForm.fieldDepth := by
  cases written : contents[index]?.join with
  | none =>
      exact ⟨trivial, Nat.zero_le _⟩
  | some content =>
      have member : some content ∈ contents :=
        List.mem_of_getElem? (Option.join_eq_some_iff.mp written)
      cases content with
      | value value => exact wellFormed _ member
      | text | absent => exact ⟨trivial, Nat.zero_le _⟩

end FieldContents

namespace RecordForm

open Json Lexeme Reading

/-- The content that is read for a field is well-formed. -/
theorem gives_readField
    (form : FieldForm)
    (bound : Nat)
    (octets : Octets) :
    Gives FieldContent.WellFormed (readField form bound octets) := by
  have texted : ∀ octets,
      Gives FieldContent.WellFormed (textContent (readString bound octets)) := by
    intro octets
    cases readString bound octets <;> trivial
  unfold readField
  split
  · exact texted octets
  · unfold readOptionalString
    split
    · trivial
    · split
      · split <;> trivial
      · exact texted _
  · split
    · trivial
    · next value rest read => exact (gives_readValue fieldDepth bound octets).of_ok read

theorem wellFormed_missingItems
    {expected : String}
    {index : Nat}
    {rest : Octets}
    {fields : List (String × FieldForm)}
    {contents : FieldContents}
    (missing : missingItems expected index rest fields = .ok contents) :
    contents.WellFormed := by
  induction fields generalizing index contents with
  | nil =>
      cases missing
      exact fun _ member => absurd member List.not_mem_nil
  | cons field later inductionHypothesis =>
      unfold missingItems at missing
      split at missing
      · next none => cases none
      · cases missing
      · next same =>
          cases same
          cases laterMissing : missingItems expected (index + 1) rest later with
          | error fault =>
              rw [laterMissing] at missing
              cases missing
          | ok laterContents =>
              rw [laterMissing] at missing
              cases missing
              intro content member
              rcases List.mem_cons.mp member with impossible | inLater
              · cases impossible
              · exact inductionHypothesis laterMissing content inLater

theorem gives_readItems
    (expected : String)
    (bound index : Nat)
    (fields : List (String × FieldForm))
    (octets : Octets) :
    Gives FieldContents.WellFormed (readItems expected bound index fields octets) := by
  induction fields generalizing index octets with
  | nil =>
      unfold readItems
      split
      · trivial
      · exact fun _ member => absurd member List.not_mem_nil
  | cons field later inductionHypothesis =>
      unfold readItems
      split
      · trivial
      · split
        · trivial
        · next missing => exact wellFormed_missingItems missing
      · split
        · trivial
        · next content rest read =>
            have contentWellFormed := (gives_readField field.2 bound _).of_ok read
            split
            · trivial
            · next contents last readLater =>
                have laterWellFormed := (inductionHypothesis (index + 1) rest).of_ok readLater
                intro other member
                rcases List.mem_cons.mp member with same | inLater
                · cases same
                  exact contentWellFormed
                · exact laterWellFormed other inLater

/-- The contents that are read from an object are well-formed. -/
theorem gives_readMembers
    (fields : List (String × FieldForm))
    (bound : Nat)
    (first : Bool)
    {contents : FieldContents}
    (wellFormed : contents.WellFormed)
    (octets : Octets) :
    Gives FieldContents.WellFormed (readMembers fields bound first contents octets) := by
  induction bound generalizing first contents octets with
  | zero =>
      trivial
  | succ bound inductionHypothesis =>
      unfold readMembers
      split
      · trivial
      · split
        · trivial
        · exact wellFormed
      · split
        · trivial
        · split
          · split
            · trivial
            · exact inductionHypothesis false wellFormed _
          · next index _ =>
              split
              · trivial
              · split
                · trivial
                · next content rest read =>
                    unfold readKnown at read
                    split at read
                    · cases read
                    · have contentWellFormed := (gives_readField _ bound _).of_ok read
                      exact inductionHypothesis false
                        (FieldContents.wellFormed_set wellFormed contentWellFormed index) rest

theorem gives_refuse
    {given found : Type}
    (holds : given → Prop)
    (expected : String)
    (name : found → Found)
    (reading : Reading found) :
    Gives holds (refuse expected name reading) := by
  unfold refuse
  split <;> trivial

/-- A value that is refused gives nothing. -/
theorem gives_refuseValue
    {given : Type}
    (holds : given → Prop)
    (expected : String)
    (bound : Nat)
    (octets : Octets) :
    Gives holds (refuseValue expected bound octets) := by
  unfold refuseValue
  split
  · trivial
  · repeat'
      split
      · first
        | exact gives_refuse holds _ _ _
        | trivial
    trivial

/-- Whatever record is read, its contents are well-formed. -/
theorem wellFormed_of_ofOctets
    {form : RecordForm}
    {text : Octets}
    {contents : FieldContents}
    (read : form.ofOctets text = .ok contents) :
    contents.WellFormed := by
  unfold ofOctets at read
  dsimp only at read
  split at read
  · cases read
  · next readContents rest reading =>
      split at read
      · cases read
      · cases read
        refine Gives.of_ok ?_ reading
        split
        · trivial
        · split
          · exact gives_readItems _ _ _ _ _
          · split
            · exact gives_readMembers _ _ _ (FieldContents.wellFormed_none form.fields) _
            · exact gives_refuseValue _ _ _ _

/-! ## Members that were written -/

/-- A member of the record that was not read before is read into its field. -/
theorem readMembers_memberOctets
    {fields : List (String × FieldForm)}
    {index : Nat}
    {key : String}
    {form : FieldForm}
    (found : fields.findIdx? (·.1 == key) = some index)
    (formed : fields[index]? = some (key, form))
    {contents : FieldContents}
    (unwritten : contents[index]?.join = none)
    {bound : Nat}
    {value : Json}
    {rest : Octets}
    (enough : (memberOctets key value rest).length ≤ bound)
    {first : Bool}
    {octets : Octets}
    (lead : readMemberLead first octets = .ok (true, memberOctets key value rest)) :
    readMembers fields (bound + 1) first contents octets =
      match readField form bound (Utf8.octetsOf value.chars ++ rest) with
      | .error fault => .error fault
      | .ok (content, rest) =>
          readMembers fields bound false (contents.set index (some content)) rest := by
  have keyRead := readText_escaped key enough
  have known :
      readKnown form bound (':'.toUInt8 :: (Utf8.octetsOf value.chars ++ rest)) =
        readField form bound (Utf8.octetsOf value.chars ++ rest) := rfl
  have new : (contents[index]?.join).isSome = false := by
    rw [unwritten]
    rfl
  simp only [readMembers, lead]
  unfold memberOctets
  cases fieldRead : readField form bound (Utf8.octetsOf value.chars ++ rest) <;>
    simp only [keyRead, found, new, formed, Option.map_some, Option.getD_some, known,
      fieldRead, Bool.false_eq_true, ↓reduceIte]

theorem readField_text
    (text : String)
    {bound : Nat}
    {rest : Octets}
    (enough : (Utf8.octetsOf (chars (.string text)) ++ rest).length ≤ bound) :
    readField .text bound (Utf8.octetsOf (chars (.string text)) ++ rest) =
      .ok (.text text, rest) := by
  rw [chars, octetsOf_stringText] at enough ⊢
  change textContent (readText bound _) = _
  rw [readText_escaped text (Nat.le_of_succ_le enough)]
  rfl

theorem readField_optionalText
    (text : String)
    {bound : Nat}
    {rest : Octets}
    (enough : (Utf8.octetsOf (chars (.string text)) ++ rest).length ≤ bound) :
    readField .optionalText bound (Utf8.octetsOf (chars (.string text)) ++ rest) =
      .ok (.text text, rest) := by
  rw [chars, octetsOf_stringText] at enough ⊢
  change textContent (readText bound _) = _
  rw [readText_escaped text (Nat.le_of_succ_le enough)]
  rfl

end RecordForm

end SignalRelay
