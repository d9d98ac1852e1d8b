import SignalRelay.Json.Printer
import SignalRelay.Json.Record
import SignalRelay.Message.Basic

namespace SignalRelay

/-!
# Messages as JSON

A message is written as an object with its members in a fixed order, without members
for what it does not have.  It is read from an object or from an array.
-/

namespace Message

/-- The members of a message: the kind always, the rest where present. -/
def members (message : Message) : List (String × Json) :=
  [("type", .string message.kind.text)] ++
    (match message.source with
      | some source => [("src", .string source)]
      | none => []) ++
    (match message.destination with
      | some destination => [("dst", .string destination)]
      | none => []) ++
    (if message.payload.isNull then [] else [("payload", message.payload)])

/-- The JSON text of a message. -/
def toText (message : Message) : String :=
  (Json.object message.members).render

/-- The record that a message is read from. -/
def form : RecordForm where
  name := "struct Message"
  fields :=
    [("type", .text), ("src", .optionalText), ("dst", .optionalText),
      ("payload", .value)]

/-- The message with the given fields. -/
def ofContents (contents : FieldContents) : Message where
  kind := .ofText ((FieldContent.text? contents[0]?.join).getD "")
  source := FieldContent.text? contents[1]?.join
  destination := FieldContent.text? contents[2]?.join
  payload := FieldContent.json contents[3]?.join

/-- Read a message. -/
def ofOctets (text : Octets) : Except Fault Message :=
  (form.ofOctets text).map ofContents

/-- Read a message from a text. -/
def ofText (text : String) : Except Fault Message :=
  ofOctets (Utf8.encode text)

end Message

end SignalRelay
