import SignalRelay.Json.Basic
import SignalRelay.Message.Kind

namespace SignalRelay

/-!
# Messages

One JSON message, the same in both directions, and the notices that the relay sends.
-/

/-- A message. -/
structure Message where
  kind : MessageKind
  source : Option String
  destination : Option String
  payload : Json
  deriving Repr

/-- Why the relay refuses a connection, as it tells the client. -/
inductive RefusalCode where
  | invalidParameters : RefusalCode
  | invalidKey : RefusalCode
  | limitExceeded : RefusalCode
  deriving Repr, DecidableEq

namespace RefusalCode

/-- The text that names a code to a client. -/
def text : RefusalCode → String
  | .invalidParameters => "No id, token, or key supplied to websocket server"
  | .invalidKey => "Invalid key provided"
  | .limitExceeded => "Server has reached its concurrent user limit"

/-- All codes. -/
def all : List RefusalCode := [.invalidParameters, .invalidKey, .limitExceeded]

/-- The code that a text names. -/
def ofText? (text : String) : Option RefusalCode :=
  all.find? (·.text == text)

end RefusalCode

namespace Message

/-- The text of the notice that an id belongs to someone else. -/
def idTakenText : String := "ID is taken"

/-- A message of a kind with nothing else. -/
def ofKind (kind : MessageKind) : Message :=
  ⟨kind, none, none, .null⟩

/-- A message of a kind whose payload holds only a text. -/
def notice (kind : MessageKind) (text : String) : Message :=
  ⟨kind, none, none, .object [("msg", .string text)]⟩

/-- The notice that a client is registered. -/
def opened : Message := ofKind .opened

/-- The sign of life that a client sends. -/
def heartbeat : Message := ofKind .heartbeat

/-- The notice that a connection is refused. -/
def refusal (code : RefusalCode) : Message := notice .error code.text

/-- The notice that an id belongs to someone else. -/
def idTaken : Message := notice .idTaken idTakenText

/-- The message with its source replaced. -/
def withSource (message : Message) (source : String) : Message :=
  { message with source := some source }

/-- The id that the message is for; an empty one is none. -/
def recipient? (message : Message) : Option String :=
  message.destination.filter (· != "")

/-- The text in the payload of a notice. -/
def noticeText? (message : Message) : Option String :=
  (message.payload.member? "msg").bind Json.text?

/-- Equality of messages up to the sign of zeros in the payload. -/
def same (left right : Message) : Bool :=
  left.kind == right.kind && left.source == right.source &&
    left.destination == right.destination && left.payload.same right.payload

end Message

end SignalRelay
