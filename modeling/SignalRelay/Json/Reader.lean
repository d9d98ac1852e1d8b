import SignalRelay.Json.Lexeme

namespace SignalRelay

/-!
# Reading JSON values

`Json.readValue levels` reads a value whose arrays and objects nest at most `levels`
deep.  The opening bracket of one level more is refused without being consumed.
-/

namespace Json

open Lexeme

/-- A reader of values, given a bound on the number of octets left. -/
abbrev ValueReader := Nat → Octets → Reading Json

/-- Read the elements of an array after an element, or its end. -/
def readMoreItems (item : ValueReader) :
    (bound : Nat) → (items : List Json) → Octets → Reading (List Json)
  | 0, _, rest => .error (.next .endInList rest)
  | bound + 1, items, octets =>
      match skipBlanks octets with
      | [] => .error (.next .endInList [])
      | octet :: rest =>
          if octet = ']'.toUInt8 then
            .ok (items.reverse, rest)
          else if octet = ','.toUInt8 then
            match skipBlanks rest with
            | [] => .error (.next .endInValue [])
            | following :: later =>
                if following = ']'.toUInt8 then
                  .error (.next .trailingComma (following :: later))
                else
                  match item bound (following :: later) with
                  | .error fault => .error fault
                  | .ok (value, rest) => readMoreItems item bound (value :: items) rest
          else
            .error (.next .expectedCommaOrBracket (octet :: rest))

/-- Read an array after its opening bracket. -/
def readArray (item : ValueReader) : ValueReader := fun bound octets =>
  match skipBlanks octets with
  | [] => .error (.next .endInList [])
  | octet :: rest =>
      if octet = ']'.toUInt8 then
        .ok (.array [], rest)
      else
        match item bound (octet :: rest) with
        | .error fault => .error fault
        | .ok (value, rest) =>
            match readMoreItems item bound [value] rest with
            | .error fault => .error fault
            | .ok (items, rest) => .ok (.array items, rest)

/-- Read the colon behind a key. -/
def readColon (octets : Octets) : Except Fault Octets :=
  match skipBlanks octets with
  | [] => .error (.next .endInObject [])
  | octet :: rest =>
      if octet = ':'.toUInt8 then
        .ok rest
      else
        .error (.next .expectedColon (octet :: rest))

/-- Read a member after the opening quote of its key. -/
def readMember (item : ValueReader) (bound : Nat) (octets : Octets) :
    Reading (String × Json) :=
  match readText bound octets with
  | .error fault => .error fault
  | .ok (key, rest) =>
      match readColon rest with
      | .error fault => .error fault
      | .ok rest =>
          match item bound rest with
          | .error fault => .error fault
          | .ok (value, rest) => .ok ((key, value), rest)

/-- Read the members of an object after a member, or its end. -/
def readMoreMembers (item : ValueReader) :
    (bound : Nat) → (members : List (String × Json)) → Octets →
      Reading (List (String × Json))
  | 0, _, rest => .error (.next .endInObject rest)
  | bound + 1, members, octets =>
      match skipBlanks octets with
      | [] => .error (.next .endInObject [])
      | octet :: rest =>
          if octet = '}'.toUInt8 then
            .ok (members.reverse, rest)
          else if octet = ','.toUInt8 then
            match skipBlanks rest with
            | [] => .error (.next .endInValue [])
            | following :: later =>
                if following = '"'.toUInt8 then
                  match readMember item bound later with
                  | .error fault => .error fault
                  | .ok (member, rest) =>
                      readMoreMembers item bound (member :: members) rest
                else if following = '}'.toUInt8 then
                  .error (.next .trailingComma (following :: later))
                else
                  .error (.next .keyNotString (following :: later))
          else
            .error (.next .expectedCommaOrBrace (octet :: rest))

/-- Read an object after its opening brace. -/
def readObject (item : ValueReader) : ValueReader := fun bound octets =>
  match skipBlanks octets with
  | [] => .error (.next .endInObject [])
  | octet :: rest =>
      if octet = '}'.toUInt8 then
        .ok (.object [], rest)
      else if octet = '"'.toUInt8 then
        match readMember item bound rest with
        | .error fault => .error fault
        | .ok (member, rest) =>
            match readMoreMembers item bound [member] rest with
            | .error fault => .error fault
            | .ok (members, rest) => .ok (ofMembers members, rest)
      else
        .error (.next .keyNotString (octet :: rest))

/-- Read a word after its first letter, with the value it stands for. -/
def readNamed (word : String) (value : Json) (rest : Octets) : Reading Json :=
  match readWord word.toList rest with
  | .error fault => .error fault
  | .ok rest => .ok (value, rest)

/-- Wrap a number that was read. -/
def numberValue : Reading JsonNumber → Reading Json
  | .error fault => .error fault
  | .ok (value, rest) => .ok (.number value, rest)

/-- Wrap a string that was read. -/
def stringValue : Reading String → Reading Json
  | .error fault => .error fault
  | .ok (text, rest) => .ok (.string text, rest)

/--
Read a value that starts at the next octet, given the readers for what follows an
opening bracket and an opening brace; `none` stands for a level too many.
-/
def readStarted (array object : Option ValueReader) (bound : Nat) :
    Octets → Reading Json
  | [] => .error (.next .endInValue [])
  | octet :: rest =>
      if octet = 'n'.toUInt8 then
        readNamed "ull" .null rest
      else if octet = 't'.toUInt8 then
        readNamed "rue" (.bool true) rest
      else if octet = 'f'.toUInt8 then
        readNamed "alse" (.bool false) rest
      else if octet = '-'.toUInt8 then
        numberValue (readNumber true rest)
      else if isDigit octet then
        numberValue (readNumber false (octet :: rest))
      else if octet = '"'.toUInt8 then
        stringValue (readText bound rest)
      else if octet = '['.toUInt8 then
        match array with
        | none => .error (.next .tooDeep (octet :: rest))
        | some read => read bound rest
      else if octet = '{'.toUInt8 then
        match object with
        | none => .error (.next .tooDeep (octet :: rest))
        | some read => read bound rest
      else
        .error (.next .expectedValue (octet :: rest))

/-- Read a value, blanks before it included, that nests at most `levels` deep. -/
def readValue : (levels : Nat) → ValueReader
  | 0 => fun bound octets => readStarted none none bound (skipBlanks octets)
  | levels + 1 => fun bound octets =>
      readStarted (some (readArray (readValue levels)))
        (some (readObject (readValue levels))) bound (skipBlanks octets)

/-- Nothing but blanks may follow a document. -/
def readEnd (octets : Octets) : Except Fault Unit :=
  match skipBlanks octets with
  | [] => .ok ()
  | octet :: rest => .error (.next .trailingCharacters (octet :: rest))

/-- How deeply a document may nest. -/
def greatestDepth : Nat := 127

/-- Read a document that holds one value. -/
def ofOctets (text : Octets) : Except Fault Json :=
  match readValue greatestDepth text.length text with
  | .error fault => .error fault
  | .ok (value, rest) =>
      match readEnd rest with
      | .error fault => .error fault
      | .ok () => .ok value

end Json

end SignalRelay
