import SignalRelay.Json.Report
import SignalRelay.Relay.State

namespace SignalRelay

/-!
# Routing

A message goes to the connection of the client that it names.  A message that finds its
destination but not its way into the queue is dropped without a failure: to try again is
up to the clients.

What is read from a client bears the client's own id as its source, whatever it said.
-/

namespace Relay

/-- Hand a message to the client that it is for. -/
def route (relay : Relay) (message : Message) :
    Relay × Journal × Except RelayError Unit :=
  match message.recipient? with
  | none => (relay, [], .error (.protocol "message has no destination"))
  | some id =>
      match relay.directory.find? id with
      | none => (relay, [], .error (.routing id))
      | some client =>
          match relay.sendToClient client message with
          | (after, .ok ()) => (after, [.tally (.relayed message.kind)], .ok ())
          | (after, .error _) => (after, [.tally (.dropped .writeFailed)], .ok ())

/--
Act on a message of a client: signs of life need no answer, the relay's own kinds are
dropped, and the others are routed.
-/
def dispatch (relay : Relay) (message : Message) : Relay × Journal :=
  if message.kind = .heartbeat then
    (relay, [])
  else if message.kind.isReserved then
    (relay, [.tally (.dropped .reservedKind)])
  else
    match relay.route message with
    | (after, journal, .ok ()) => (after, journal)
    | (after, journal, .error error) =>
        (after, journal ++ [.tally (.dropped (.failed error))])

/-- Report a message of a client, and act on it. -/
def receive (relay : Relay) (client : ClientRef) (message : Message) : Relay × Journal :=
  let (after, journal) := relay.dispatch message
  (after, .event (.message (relay.clientId client) message) :: journal)

/-- Read a message from a client's connection. -/
def readFrame (relay : Relay) (client : ClientRef) (connection : ConnectionId)
    (octets : Octets) : Relay × Journal :=
  match Message.ofOctets octets with
  | .ok message => relay.receive client (message.withSource (relay.clientId client))
  | .error fault =>
      (relay,
        [.tally .malformed,
          .event (.malformed (relay.clientId client) connection (fault.report octets))])

end Relay

end SignalRelay
