import SignalRelay.Relay.State

namespace SignalRelay

/-!
# The handshake

A connection presents an id, a token and the shared key.  An unknown id is registered if
there is room.  A known id is given to the new connection if the token is the one it was
registered with.  Nothing changes otherwise.
-/

/-- What a connection presents, as far as it does. -/
structure HandshakeParameters where
  id : Option String := none
  token : Option String := none
  key : Option String := none
  deriving Repr, DecidableEq

/-- What a connection has to present. -/
structure Credentials where
  id : String
  token : String
  key : String
  deriving Repr, DecidableEq

/-- The answer to an id and a token. -/
inductive Admission where
  /-- The id was unknown; it has a new client now. -/
  | registered : ClientRef → Admission
  /-- The id was known; its client lets go of the previous connection. -/
  | rebound : ClientRef → (previous : Option ConnectionId) → Admission
  /-- The id is known under another token. -/
  | idTaken : Admission
  /-- The id is unknown, and there is no room. -/
  | limitReached : Admission
  deriving Repr, DecidableEq

/-- How a handshake ends. -/
inductive HandshakeOutcome where
  | registered : ClientRef → HandshakeOutcome
  | reconnected : ClientRef → HandshakeOutcome
  | rejected : RefusalCode → HandshakeOutcome
  | idTaken : HandshakeOutcome
  deriving Repr, DecidableEq

namespace HandshakeParameters

/-- A parameter that is there and not empty. -/
def present? (parameter : Option String) : Option String :=
  parameter.filter (· != "")

/-- The credentials, if nothing of them is missing. -/
def credentials? (parameters : HandshakeParameters) : Option Credentials :=
  match present? parameters.id, present? parameters.token, present? parameters.key with
  | some id, some token, some key => some ⟨id, token, key⟩
  | _, _, _ => none

end HandshakeParameters

namespace HandshakeOutcome

/-- The label under which an outcome is counted. -/
def label : HandshakeOutcome → HandshakeLabel
  | .registered _ => .registered
  | .reconnected _ => .reconnected
  | .rejected code => .rejected code
  | .idTaken => .idTaken

/-- The client that a connection was given, if it was given one. -/
def client? : HandshakeOutcome → Option ClientRef
  | .registered client => some client
  | .reconnected client => some client
  | .rejected _ => none
  | .idTaken => none

end HandshakeOutcome

namespace Admission

/-- What an admission means for the handshake. -/
def outcome : Admission → HandshakeOutcome
  | .registered client => .registered client
  | .rebound client _ => .reconnected client
  | .idTaken => .idTaken
  | .limitReached => .rejected .limitExceeded

end Admission

namespace Relay

/-- Give an id to a connection, with room for a limited number of ids. -/
def enroll (relay : Relay) (id token : String) (connection : ConnectionId) (limit : Nat) :
    Relay × Admission :=
  match relay.directory.find? id with
  | some client =>
      if relay.tokenMatches client token then
        (relay.bind client connection, .rebound client (relay.connectionOf client))
      else
        (relay, .idTaken)
  | none =>
      if limit ≤ relay.directory.size then
        (relay, .limitReached)
      else
        let (grown, client) := relay.addClient ⟨id, token, some connection⟩
        (grown.register id client, .registered client)

/-- Check what a connection presents, and enroll it. -/
def handshake (relay : Relay) (parameters : HandshakeParameters)
    (connection : ConnectionId) : Relay × HandshakeOutcome :=
  match parameters.credentials? with
  | none => (relay, .rejected .invalidParameters)
  | some credentials =>
      if relay.settings.keyMatches credentials.key then
        let (after, admission) :=
          relay.enroll credentials.id credentials.token connection
            relay.settings.clientLimit
        (after, admission.outcome)
      else
        (relay, .rejected .invalidKey)

end Relay

end SignalRelay
