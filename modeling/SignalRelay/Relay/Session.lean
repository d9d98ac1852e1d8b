import SignalRelay.Relay.Handshake
import SignalRelay.Relay.Routing

namespace SignalRelay

/-!
# Sessions

The life of a connection after its handshake.  A client that is new is told that it is
registered; one that reconnects is told nothing; the others are told why they are
refused.  Then the connection is read until it is closed, it fails, or it ends.
-/

/-- A connection that is read for a client. -/
structure Session where
  client : ClientRef
  connection : ConnectionId
  /-- How many reads have failed since the last that succeeded. -/
  failures : Nat
  deriving Repr, DecidableEq

/-- What reading from a connection gives. -/
inductive ReadResult where
  | text : Octets → ReadResult
  | binary : Octets → ReadResult
  | ping : ReadResult
  | pong : ReadResult
  | close : ReadResult
  /-- The connection was torn down. -/
  | reset : ReadResult
  /-- Reading failed in another way. -/
  | failure : ReadResult
  | ended : ReadResult
  deriving Repr, DecidableEq

namespace Session

/-- How many reads in a row may fail before a connection is given up. -/
def failureLimit : Nat := 8

/-- How long, in milliseconds, a notice that an id is taken has until the closing. -/
def idTakenGrace : Nat := 100

/-- A session that starts. -/
def start (client : ClientRef) (connection : ConnectionId) : Session :=
  ⟨client, connection, 0⟩

/-- What a read result holds for the relay to decode. -/
def frame? : ReadResult → Option Octets
  | .text octets => some octets
  | .binary octets => some octets
  | _ => none

/-- The session after a read result, if it goes on. -/
def after (session : Session) : ReadResult → Option Session
  | .text _ | .binary _ | .ping | .pong => some { session with failures := 0 }
  | .failure =>
      if session.failures + 1 < failureLimit then
        some { session with failures := session.failures + 1 }
      else
        none
  | .close | .reset | .ended => none

end Session

namespace Relay

/-- The notice that the outcome of a handshake calls for. -/
def notice? : HandshakeOutcome → Option Message
  | .registered _ => some .opened
  | .reconnected _ => none
  | .rejected code => some (.refusal code)
  | .idTaken => some .idTaken

/-- Shake hands with a connection, and count how that ended. -/
def meet (relay : Relay) (parameters : HandshakeParameters) (connection : ConnectionId) :
    Relay × Journal × HandshakeOutcome :=
  let (after, outcome) := relay.handshake parameters connection
  (after, [.tally (.handshake outcome.label)], outcome)

/-- Tell a connection how its handshake ended; one that is rejected is closed. -/
def greet (relay : Relay) (connection : ConnectionId) (outcome : HandshakeOutcome) :
    Relay × Journal :=
  let told :=
    match notice? outcome with
    | some message => (relay.sendMessage connection message).1
    | none => relay
  match outcome with
  | .registered _ => (told, [.tally (.clientsActive relay.directory.size)])
  | .rejected _ => (told.closeConnection connection, [])
  | .reconnected _ | .idTaken => (told, [])

/-- Report that a session begins. -/
def beginSession (relay : Relay) (session : Session) : Journal :=
  [.event (.connected (relay.clientId session.client) session.connection)]

/-- Act on what was read in a session. -/
def readResult (relay : Relay) (session : Session) (result : ReadResult) :
    Relay × Journal :=
  match Session.frame? result with
  | some octets => relay.readFrame session.client session.connection octets
  | none => (relay, [])

/--
End a session: its client is taken out of the directory, unless another connection has
taken over, and the connection is closed.
-/
def endSession (relay : Relay) (session : Session) : Relay × Journal :=
  let id := relay.clientId session.client
  let evicted := (relay.boundEntry? id session.connection).isSome
  let after :=
    (relay.unregisterBound id session.connection).closeConnection session.connection
  (after,
    (if evicted then [.tally (.clientsActive after.directory.size)] else []) ++
      [.event (.disconnected id session.connection evicted)])

/--
Read a session through a list of results.  Where it stops, it ends, and what comes
later is not read; if it does not stop, it is still there afterwards.
-/
def readThrough (relay : Relay) (session : Session) :
    List ReadResult → Relay × Journal × Option Session
  | [] => (relay, [], some session)
  | result :: later =>
      let (read, journal) := relay.readResult session result
      match session.after result with
      | some session =>
          let (after, rest, session?) := readThrough read session later
          (after, journal ++ rest, session?)
      | none =>
          let (after, rest) := read.endSession session
          (after, journal ++ rest, none)

/-- Begin a session and read it through a list of results. -/
def runSession (relay : Relay) (session : Session) (results : List ReadResult) :
    Relay × Journal × Option Session :=
  let (after, journal, session?) := relay.readThrough session results
  (after, relay.beginSession session ++ journal, session?)

end Relay

end SignalRelay
