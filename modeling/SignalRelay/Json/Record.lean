import SignalRelay.Json.Skip

namespace SignalRelay

/-!
# Records in JSON

A record is a fixed list of named fields.  It may be written as an object, whose members
come in any order and whose other members are skipped, or as an array of its first
fields in order.  A field holds a text, a text that may be missing, or any value.
-/

/-- What a field holds. -/
inductive FieldForm where
  /-- A string, which has to be there. -/
  | text : FieldForm
  /-- A string, or `null`, or nothing. -/
  | optionalText : FieldForm
  /-- Any value, or nothing. -/
  | value : FieldForm
  deriving Repr, DecidableEq

/-- The content of a field that was written. -/
inductive FieldContent where
  | text : String → FieldContent
  | absent : FieldContent
  | value : Json → FieldContent
  deriving Repr

/-- A kind of record. -/
structure RecordForm where
  /-- How a report names the record. -/
  name : String
  fields : List (String × FieldForm)
  deriving Repr, DecidableEq

/-- The contents of a record's fields, in the order of the fields; `none` if a field was
not written. -/
abbrev FieldContents := List (Option FieldContent)

namespace FieldContent

/-- The text of a field, if it holds one. -/
def text? : Option FieldContent → Option String
  | some (.text content) => some content
  | _ => none

/-- The value of a field, `null` if there is none. -/
def json : Option FieldContent → Json
  | some (.value content) => content
  | _ => .null

end FieldContent

namespace RecordForm

open Lexeme

/-- How deeply the value of a field may nest: the record itself is one level. -/
def fieldDepth : Nat := Json.greatestDepth - 1

/-- Refuse a value that was read to name it. -/
def refuse {α β : Type} (expected : String) (found : α → Found) :
    Reading α → Reading β
  | .error fault => .error fault
  | .ok (value, rest) => .error (.after (.wrongType (found value) expected) rest)

/-- Refuse the value that starts here as not of the expected form.  A scalar is read
first, a bracket is not consumed. -/
def refuseValue {α : Type} (expected : String) (bound : Nat) : Octets → Reading α
  | [] => .error (.next .expectedValue [])
  | octet :: rest =>
      if octet = 'n'.toUInt8 then
        refuse expected id (readWord "ull".toList rest |>.map fun rest => (.null, rest))
      else if octet = 't'.toUInt8 then
        refuse expected id
          (readWord "rue".toList rest |>.map fun rest => (.bool true, rest))
      else if octet = 'f'.toUInt8 then
        refuse expected id
          (readWord "alse".toList rest |>.map fun rest => (.bool false, rest))
      else if octet = '-'.toUInt8 then
        refuse expected .number (readNumber true rest)
      else if isDigit octet then
        refuse expected .number (readNumber false (octet :: rest))
      else if octet = '"'.toUInt8 then
        refuse expected .string (readText bound rest)
      else if octet = '['.toUInt8 then
        .error (.after (.wrongType .sequence expected) (octet :: rest))
      else if octet = '{'.toUInt8 then
        .error (.after (.wrongType .map expected) (octet :: rest))
      else
        .error (.next .expectedValue (octet :: rest))

/-- Read a string. -/
def readString (bound : Nat) (octets : Octets) : Reading String :=
  match skipBlanks octets with
  | [] => .error (.next .endInValue [])
  | octet :: rest =>
      if octet = '"'.toUInt8 then
        readText bound rest
      else
        refuseValue "a string" bound (octet :: rest)

/-- Wrap the text of a field. -/
def textContent : Reading String → Reading FieldContent
  | .error fault => .error fault
  | .ok (text, rest) => .ok (.text text, rest)

/-- Read a string or `null`. -/
def readOptionalString (bound : Nat) (octets : Octets) : Reading FieldContent :=
  match skipBlanks octets with
  | [] => .error (.next .endInValue [])
  | octet :: rest =>
      if octet = 'n'.toUInt8 then
        match readWord "ull".toList rest with
        | .error fault => .error fault
        | .ok rest => .ok (.absent, rest)
      else
        textContent (readString bound (octet :: rest))

/-- Read the content of a field. -/
def readField (form : FieldForm) (bound : Nat) (octets : Octets) : Reading FieldContent :=
  match form with
  | .text => textContent (readString bound octets)
  | .optionalText => readOptionalString bound octets
  | .value =>
      match Json.readValue fieldDepth bound octets with
      | .error fault => .error fault
      | .ok (value, rest) => .ok (.value value, rest)

/-! ## Records written as arrays -/

/-- What precedes an element: the end of the array, or the element itself. -/
def readItemLead (first : Bool) (octets : Octets) : Except Fault (Bool × Octets) :=
  match skipBlanks octets with
  | [] => .error (.next .endInList [])
  | octet :: rest =>
      if octet = ']'.toUInt8 then
        .ok (false, octet :: rest)
      else if first then
        .ok (true, octet :: rest)
      else if octet = ','.toUInt8 then
        match skipBlanks rest with
        | [] => .error (.next .endInValue [])
        | following :: later =>
            if following = ']'.toUInt8 then
              .error (.next .trailingComma (following :: later))
            else
              .ok (true, following :: later)
      else
        .error (.next .expectedCommaOrBracket (octet :: rest))

/-- Read the end of an array after the last element that the record has. -/
def readListEnd (octets : Octets) : Except Fault Octets :=
  match skipBlanks octets with
  | [] => .error (.next .endInList [])
  | octet :: rest =>
      if octet = ']'.toUInt8 then
        .ok rest
      else if octet = ','.toUInt8 then
        match skipBlanks rest with
        | [] => .error (.next .trailingCharacters [])
        | following :: later =>
            if following = ']'.toUInt8 then
              .error (.next .trailingComma (following :: later))
            else
              .error (.next .trailingCharacters (following :: later))
      else
        .error (.next .trailingCharacters (octet :: rest))

/-- The contents of fields that the array ended before; a text has to be there. -/
def missingItems (expected : String) (index : Nat) (rest : Octets) :
    List (String × FieldForm) → Except Fault FieldContents
  | [] => .ok []
  | (_, .text) :: _ => .error (.after (.wrongLength index expected) rest)
  | _ :: fields => (missingItems expected (index + 1) rest fields).map (none :: ·)

/-- Read the elements of a record from the one with the given index on. -/
def readItems (expected : String) (bound index : Nat) :
    List (String × FieldForm) → Octets → Reading FieldContents
  | [], octets =>
      match readListEnd octets with
      | .error fault => .error fault
      | .ok rest => .ok ([], rest)
  | (name, form) :: fields, octets =>
      match readItemLead (index == 0) octets with
      | .error fault => .error fault
      | .ok (false, rest) =>
          match missingItems expected index (rest.drop 1) ((name, form) :: fields) with
          | .error fault => .error fault
          | .ok contents => .ok (contents, rest.drop 1)
      | .ok (true, rest) =>
          match readField form bound rest with
          | .error fault => .error fault
          | .ok (content, rest) =>
              match readItems expected bound (index + 1) fields rest with
              | .error fault => .error fault
              | .ok (contents, rest) => .ok (some content :: contents, rest)

/-! ## Records written as objects -/

/-- What precedes a member: the end of the object, or the opening quote of a key, which
is consumed. -/
def readMemberLead (first : Bool) (octets : Octets) : Except Fault (Bool × Octets) :=
  match skipBlanks octets with
  | [] => .error (.next .endInObject [])
  | octet :: rest =>
      if octet = '}'.toUInt8 then
        .ok (false, rest)
      else if first then
        if octet = '"'.toUInt8 then
          .ok (true, rest)
        else
          .error (.next .keyNotString (octet :: rest))
      else if octet = ','.toUInt8 then
        match skipBlanks rest with
        | [] => .error (.next .endInValue [])
        | following :: later =>
            if following = '"'.toUInt8 then
              .ok (true, later)
            else if following = '}'.toUInt8 then
              .error (.next .trailingComma (following :: later))
            else
              .error (.next .keyNotString (following :: later))
      else
        .error (.next .expectedCommaOrBrace (octet :: rest))

/-- Where a repeated field is reported: behind the blanks that follow its key, and
behind the closing brace if that comes next. -/
def repeatedAt (octets : Octets) : Octets :=
  match skipBlanks octets with
  | [] => []
  | octet :: rest => if octet = '}'.toUInt8 then rest else octet :: rest

/-- Read the value of a member that the record does not have. -/
def readOther (bound : Nat) (octets : Octets) : Except Fault Octets :=
  match Json.readColon octets with
  | .error fault => .error fault
  | .ok rest => Skip.skipValue bound rest

/-- Read the value of a member that the record has. -/
def readKnown (form : FieldForm) (bound : Nat) (octets : Octets) : Reading FieldContent :=
  match Json.readColon octets with
  | .error fault => .error fault
  | .ok rest => readField form bound rest

/-- The first text field that was not written. -/
def missingField? : List (String × FieldForm) → FieldContents → Option String
  | (name, .text) :: _, none :: _ => some name
  | _ :: fields, _ :: contents => missingField? fields contents
  | _, _ => none

/-- Read the members of a record up to its closing brace. -/
def readMembers (fields : List (String × FieldForm)) :
    (bound : Nat) → (first : Bool) → FieldContents → Octets → Reading FieldContents
  | 0, _, _, rest => .error (.next .endInObject rest)
  | bound + 1, first, contents, octets =>
      match readMemberLead first octets with
      | .error fault => .error fault
      | .ok (false, rest) =>
          match missingField? fields contents with
          | some name => .error (.after (.missingField name) rest)
          | none => .ok (contents, rest)
      | .ok (true, rest) =>
          match readText bound rest with
          | .error fault => .error fault
          | .ok (key, rest) =>
              match fields.findIdx? (·.1 == key) with
              | none =>
                  match readOther bound rest with
                  | .error fault => .error fault
                  | .ok rest => readMembers fields bound false contents rest
              | some index =>
                  if (contents[index]?.join).isSome then
                    .error (.after (.duplicateField key) (repeatedAt rest))
                  else
                    match readKnown ((fields[index]?.map (·.2)).getD .value) bound rest with
                    | .error fault => .error fault
                    | .ok (content, rest) =>
                        readMembers fields bound false (contents.set index (some content))
                          rest

/-- How a report names the whole of a record written as an array. -/
def arrayName (form : RecordForm) : String :=
  form.name ++ " with " ++ toString form.fields.length ++ " elements"

/-- Read a document that holds one record. -/
def ofOctets (form : RecordForm) (text : Octets) : Except Fault FieldContents :=
  let bound := text.length
  let reading : Reading FieldContents :=
    match skipBlanks text with
    | [] => .error (.next .endInValue [])
    | octet :: rest =>
        if octet = '['.toUInt8 then
          readItems form.arrayName bound 0 form.fields rest
        else if octet = '{'.toUInt8 then
          readMembers form.fields bound true (form.fields.map fun _ => none) rest
        else
          refuseValue form.name bound (octet :: rest)
  match reading with
  | .error fault => .error fault
  | .ok (contents, rest) =>
      match Json.readEnd rest with
      | .error fault => .error fault
      | .ok () => .ok contents

end RecordForm

end SignalRelay
