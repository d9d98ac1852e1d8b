import SignalRelay.Json.Record
import SignalRelay.Proofs.Json.Grammar

namespace SignalRelay

open Json

/-!
# What is given for fields

A document is a record if each of its fields is given at most one value, of the form of the field:
in an object the values of the members under its name, in an array the element in its place.  An
object can be gone through member by member, which fills one field after another.
-/

/-! ## Values for fields -/

/-- The values of all members with a key. -/
def valuesOf (key : String) (members : List (String × Json)) : List Json :=
  (members.filter fun member => member.1 == key).map (·.2)

/-- What a field takes a value for, if the value is of its form. -/
def FieldForm.content? : FieldForm → Json → Option FieldContent
  | .text, .string content => some (.text content)
  | .optionalText, .string content => some (.text content)
  | .optionalText, .null => some .absent
  | .value, json =>
      if json.depth ≤ RecordForm.fieldDepth then some (.value json.settled) else none
  | _, _ => none

/-- What a field comes to hold when values are given for it: one value at most, and a text that
has to be there is given. -/
def FieldForm.filled? (form : FieldForm) :
    Option FieldContent → List Json → Option (Option FieldContent)
  | none, [] => if form = .text then none else some none
  | some content, [] => some (some content)
  | none, [json] => (form.content? json).map some
  | _, _ => none

namespace RecordForm

/-- What the fields come to hold when members follow. -/
def filled? : List (String × FieldForm) → FieldContents → List (String × Json) →
    Option FieldContents
  | (name, form) :: fields, content :: contents, members =>
      (form.filled? content (valuesOf name members)).bind fun content =>
        (filled? fields contents members).map (content :: ·)
  | _, _, _ => some []

/-- What the fields hold when elements are given for them in order. -/
def ordered? : List (String × FieldForm) → List Json → Option FieldContents
  | [], [] => some []
  | [], _ :: _ => none
  | (_, form) :: fields, items =>
      (form.filled? none items.head?.toList).bind fun content =>
        (ordered? fields items.tail).map (content :: ·)

/-- What the fields of a record hold if a document is one. -/
def presented? (form : RecordForm) : Json → Option FieldContents
  | .object members => filled? form.fields (form.fields.map fun _ => none) members
  | .array items => ordered? form.fields items
  | _ => none

/-- What the fields hold behind one member. -/
def taken? (fields : List (String × FieldForm)) (contents : FieldContents) (key : String)
    (value : Json) : Option FieldContents :=
  match fields.findIdx? (·.1 == key) with
  | none => some contents
  | some index =>
      if (contents[index]?.join).isSome then
        none
      else
        (FieldForm.content? ((fields[index]?.map (·.2)).getD .value) value).map fun content =>
          contents.set index (some content)

/-! ## One member after another -/

theorem valuesOf_cons_same
    (key : String)
    (value : Json)
    (members : List (String × Json)) :
    valuesOf key ((key, value) :: members) = value :: valuesOf key members := by
  simp [valuesOf]

theorem valuesOf_cons_other
    {name key : String}
    (other : key ≠ name)
    (value : Json)
    (members : List (String × Json)) :
    valuesOf name ((key, value) :: members) = valuesOf name members := by
  simp [valuesOf, other]

theorem taken?_same
    (name : String)
    (form : FieldForm)
    (fields : List (String × FieldForm))
    (held : Option FieldContent)
    (contents : FieldContents)
    (value : Json) :
    taken? ((name, form) :: fields) (held :: contents) name value =
      if held.isSome then none
      else (form.content? value).map fun content => some content :: contents := by
  simp [taken?, List.findIdx?_cons]

theorem taken?_other
    {name key : String}
    (other : name ≠ key)
    (form : FieldForm)
    (fields : List (String × FieldForm))
    (held : Option FieldContent)
    (contents : FieldContents)
    (value : Json) :
    taken? ((name, form) :: fields) (held :: contents) key value =
      (taken? fields contents key value).map (held :: ·) := by
  have different : (name == key) = false := by simpa using other
  cases found : fields.findIdx? (·.1 == key) with
  | none =>
      simp [taken?, List.findIdx?_cons, different, found]
  | some index =>
      cases held : contents[index]?.join <;>
        simp [taken?, List.findIdx?_cons, different, found, held, Function.comp_def]

/-- A field that a member gives a value keeps it, if none follows. -/
theorem filled?_given
    (form : FieldForm)
    (value : Json)
    (later : List Json) :
    form.filled? none (value :: later) =
      (form.content? value).bind fun content => form.filled? (some content) later := by
  cases later <;> simp only [FieldForm.filled?] <;> cases form.content? value <;> rfl

/-- A member under another name fills none of the fields. -/
theorem filled?_other
    {fields : List (String × FieldForm)}
    {key : String}
    (others : key ∉ fields.map (·.1))
    (contents : FieldContents)
    (value : Json)
    (members : List (String × Json)) :
    filled? fields contents ((key, value) :: members) = filled? fields contents members := by
  induction fields generalizing contents with
  | nil =>
      rfl
  | cons field fields inductionHypothesis =>
      obtain ⟨notFirst, notLater⟩ := not_or.mp (mt List.mem_cons.mpr others)
      cases contents with
      | nil =>
          rfl
      | cons held contents =>
          simp only [filled?, valuesOf_cons_other notFirst,
            inductionHypothesis notLater contents]

/-- The fields are filled by one member after another. -/
theorem filled?_cons
    {fields : List (String × FieldForm)}
    (distinct : (fields.map (·.1)).Nodup)
    {contents : FieldContents}
    (sameLength : contents.length = fields.length)
    (key : String)
    (value : Json)
    (members : List (String × Json)) :
    filled? fields contents ((key, value) :: members) =
      (taken? fields contents key value).bind fun contents =>
        filled? fields contents members := by
  induction fields generalizing contents with
  | nil =>
      rfl
  | cons field fields inductionHypothesis =>
      obtain ⟨name, form⟩ := field
      obtain ⟨notLater, laterDistinct⟩ := List.nodup_cons.mp distinct
      cases contents with
      | nil =>
          cases sameLength
      | cons held contents =>
          by_cases same : name = key
          · subst same
            rw [taken?_same]
            simp only [filled?, valuesOf_cons_same, filled?_other notLater]
            cases held with
            | none =>
                rw [filled?_given]
                cases form.content? value <;> rfl
            | some content =>
                rfl
          · have later := inductionHypothesis laterDistinct (Nat.succ.inj sameLength)
            rw [taken?_other same, Option.bind_map]
            simp only [filled?, valuesOf_cons_other (Ne.symm same), later, Function.comp_def]
            cases taken? fields contents key value <;>
              cases form.filled? held (valuesOf name members) <;> rfl

theorem length_taken?
    {fields : List (String × FieldForm)}
    {contents after : FieldContents}
    {key : String}
    {value : Json}
    (taken : taken? fields contents key value = some after) :
    after.length = contents.length := by
  unfold taken? at taken
  split at taken
  · cases taken
    rfl
  · split at taken
    · cases taken
    · obtain ⟨content, -, rfl⟩ := Option.map_eq_some_iff.mp taken
      exact List.length_set

/-- Behind the last member the texts that have to be there are. -/
theorem filled?_nil
    {fields : List (String × FieldForm)}
    {contents : FieldContents}
    (sameLength : contents.length = fields.length) :
    filled? fields contents [] =
      if (missingField? fields contents).isSome then none else some contents := by
  induction fields generalizing contents with
  | nil =>
      obtain rfl := List.eq_nil_of_length_eq_zero sameLength
      rfl
  | cons field fields inductionHypothesis =>
      obtain ⟨name, form⟩ := field
      cases contents with
      | nil =>
          cases sameLength
      | cons held contents =>
          have later := inductionHypothesis (Nat.succ.inj sameLength)
          have nothing : valuesOf name [] = [] := rfl
          simp only [filled?, nothing, later]
          cases missing : missingField? fields contents <;> cases form <;> cases held <;>
            simp [missingField?, FieldForm.filled?, missing]

end RecordForm

end SignalRelay
