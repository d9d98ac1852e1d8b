import SignalRelay.Relay.Failure
import SignalRelay.Message.Codec

namespace SignalRelay

/-!
# The journal

What the relay tells about its work: events in the life of sessions, and the counters
and the gauge by which it is observed.
-/

/-- The number of a connection among all that there have been, from zero. -/
abbrev ConnectionId := Nat

namespace ConnectionId

/-- The number by which a connection is known outside, from one. -/
def number (connection : ConnectionId) : Nat :=
  connection + 1

/-- The name of a connection in reports. -/
def name (connection : ConnectionId) : String :=
  "conn-" ++ toString (number connection)

end ConnectionId

/-- An event in the life of a session; clients are named by their own id. -/
inductive Event where
  | connected : (client : String) → ConnectionId → Event
  /-- A message was read from a client. -/
  | message : (client : String) → Message → Event
  /-- Something was read that is no message. -/
  | malformed : (client : String) → ConnectionId → (reason : String) → Event
  /-- A session ended; tells whether the client was taken out of the directory. -/
  | disconnected : (client : String) → ConnectionId → (evicted : Bool) → Event
  deriving Repr

/-- How a handshake ended, as far as it is counted. -/
inductive HandshakeLabel where
  | registered : HandshakeLabel
  | reconnected : HandshakeLabel
  | rejected : RefusalCode → HandshakeLabel
  | idTaken : HandshakeLabel
  deriving Repr, DecidableEq

/-- Why a message was dropped. -/
inductive DropReason where
  /-- The connection of its destination did not take it. -/
  | writeFailed : DropReason
  /-- Only the relay may send messages of its kind. -/
  | reservedKind : DropReason
  /-- It was refused with a failure. -/
  | failed : RelayError → DropReason
  deriving Repr, DecidableEq

/-- A change of a counter or of the gauge. -/
inductive Tally where
  | handshake : HandshakeLabel → Tally
  | clientsActive : Nat → Tally
  | relayed : MessageKind → Tally
  | dropped : DropReason → Tally
  | malformed : Tally
  deriving Repr, DecidableEq

/-- An entry of the journal. -/
inductive JournalEntry where
  | event : Event → JournalEntry
  | tally : Tally → JournalEntry
  deriving Repr

/-- What was told, in order. -/
abbrev Journal := List JournalEntry

namespace HandshakeLabel

/-- The text of a label. -/
def text : HandshakeLabel → String
  | .registered => "registered"
  | .reconnected => "reconnected"
  | .rejected .invalidParameters => "invalid_parameters"
  | .rejected .invalidKey => "invalid_key"
  | .rejected .limitExceeded => "limit_exceeded"
  | .idTaken => "id_taken"

end HandshakeLabel

namespace DropReason

/-- The text of a reason. -/
def text : DropReason → String
  | .writeFailed => "write_failed"
  | .reservedKind => "reserved_type"
  | .failed error => error.label

end DropReason

namespace Tally

/-- The name of a counter with its label. -/
def labelled (name label value : String) : String :=
  "beach_pier_" ++ name ++ "\x7b" ++ label ++ "=" ++ value ++ "\x7d +1"

/-- How a change is written. -/
def text : Tally → String
  | .handshake label => labelled "handshakes_total" "outcome" label.text
  | .clientsActive count => "beach_pier_clients_active =" ++ toString count
  | .relayed kind => labelled "messages_relayed_total" "type" kind.text
  | .dropped reason => labelled "messages_dropped_total" "reason" reason.text
  | .malformed => "beach_pier_frames_malformed_total +1"

end Tally

namespace JournalEntry

/-- The event that an entry holds. -/
def event? : JournalEntry → Option Event
  | .event held => some held
  | .tally _ => none

/-- The change that an entry holds. -/
def tally? : JournalEntry → Option Tally
  | .event _ => none
  | .tally held => some held

end JournalEntry

namespace Journal

/-- The events of a journal. -/
def events (journal : Journal) : List Event :=
  journal.filterMap JournalEntry.event?

/-- The changes of counters and of the gauge in a journal. -/
def tallies (journal : Journal) : List Tally :=
  journal.filterMap JournalEntry.tally?

end Journal

end SignalRelay
