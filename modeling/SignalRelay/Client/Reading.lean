import SignalRelay.Json.Report
import SignalRelay.Message.Codec
import SignalRelay.WebSocket.Frame

namespace SignalRelay

/-!
# What a client reads

A client reads its socket until the relay closes it, it is torn down, it ends, or too
many reads in a row fail.  Texts become events; everything else is passed over.
-/

/-- Why a socket was given up. -/
inductive DisconnectReason where
  /-- The relay closed it, with a code if it gave one. -/
  | closed : Option Nat → DisconnectReason
  /-- It was torn down. -/
  | reset : DisconnectReason
  | ended : DisconnectReason
  /-- Too many reads in a row failed, the last one as reported. -/
  | failed : String → DisconnectReason
  deriving Repr, DecidableEq

/-- What reading from a socket gives. -/
inductive SocketReading where
  | text : String → SocketReading
  | binary : Octets → SocketReading
  | ping : SocketReading
  | pong : SocketReading
  | close : Option Nat → SocketReading
  | reset : SocketReading
  | failure : String → SocketReading
  | ended : SocketReading
  deriving Repr, DecidableEq

/-- How a socket fails when it is read. -/
inductive SocketFault where
  /-- Both sides have closed the connection. -/
  | connectionClosed : SocketFault
  /-- It was read once more after it had been closed. -/
  | alreadyClosed : SocketFault
  /-- The connection was torn down without a closing handshake. -/
  | resetWithoutClosing : SocketFault
  /-- The transport failed, as reported. -/
  | transport : String → SocketFault
  /-- Anything else, as reported. -/
  | other : String → SocketFault
  deriving Repr, DecidableEq

/-- What a socket gives next: a message, a failure, or nothing more. -/
abbrev SocketYield := Option (Except SocketFault SocketMessage)

/-- What a client tells its owner. -/
inductive PeerEvent where
  | message : Message → PeerEvent
  /-- A text that is no message, and why. -/
  | malformed : (raw reason : String) → PeerEvent
  | disconnected : DisconnectReason → PeerEvent
  deriving Repr

namespace PeerEvent

/-- The event that a text becomes. -/
def ofText (text : String) : PeerEvent :=
  match Message.ofText text with
  | .ok read => .message read
  | .error fault => .malformed text (fault.report (Utf8.encode text))

end PeerEvent

namespace SocketReading

/-- How many reads in a row may fail before a socket is given up. -/
def failureLimit : Nat := 8

/-- How a failure is read: those that leave no connection are all the same. -/
def ofFault : SocketFault → SocketReading
  | .connectionClosed | .alreadyClosed | .resetWithoutClosing => .reset
  | .transport _ => .reset
  | .other report => .failure report

/-- How a message is read. -/
def ofMessage : SocketMessage → SocketReading
  | .text raw => .text raw
  | .binary octets => .binary octets
  | .ping _ => .ping
  | .pong _ => .pong
  | .close notice? => .close (notice?.map (·.code))

/-- How what a socket gives is read. -/
def ofYield : SocketYield → SocketReading
  | some (.ok message) => .ofMessage message
  | some (.error fault) => .ofFault fault
  | none => .ended

/-- The event that a reading becomes, if it becomes one. -/
def event? : SocketReading → Option PeerEvent
  | .text raw => some (.ofText raw)
  | _ => none

/--
How many reads have failed in a row after a reading, given how many had before; or why
the socket is given up.
-/
def after (failures : Nat) : SocketReading → Except DisconnectReason Nat
  | .text _ | .binary _ | .ping | .pong => .ok 0
  | .close code? => .error (.closed code?)
  | .reset => .error .reset
  | .ended => .error .ended
  | .failure report =>
      if failures + 1 < failureLimit then .ok (failures + 1) else .error (.failed report)

end SocketReading

end SignalRelay
