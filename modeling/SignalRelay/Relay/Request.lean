import SignalRelay.Relay.Routing

namespace SignalRelay

/-!
# Requests

A registered client may have a single message relayed by a request.  The request names
the shared key, the client, its token and the kind of the message; the body names the
destination and the payload, and nothing else in it counts.
-/

/-- A request to relay a message. -/
structure RelayRequest where
  key : String
  id : String
  token : String
  kind : String
  body : Octets
  deriving Repr, DecidableEq

namespace RelayRequest

/-- The record that a body is read from. -/
def form : RecordForm where
  name := "struct RelayBody"
  fields := [("dst", .optionalText), ("payload", .value)]

/-- The message that a body asks for. -/
def message (kind : MessageKind) (source : String) (contents : FieldContents) :
    Message where
  kind
  source := some source
  destination := FieldContent.text? contents[0]?.join
  payload := FieldContent.json contents[1]?.join

end RelayRequest

namespace Refusal

/-- The key is not the shared key. -/
def invalidKey : Refusal := ⟨401, "invalid_key"⟩

/-- Messages of the kind are not relayed by requests. -/
def unsupportedKind : Refusal := ⟨400, "unsupported_message_type"⟩

/-- The client is not registered. -/
def sourceNotFound : Refusal := ⟨404, "source_not_found"⟩

/-- The token is not the client's. -/
def invalidToken : Refusal := ⟨401, "invalid_token"⟩

/-- The body does not say what to relay. -/
def invalidMessage : Refusal := ⟨400, "invalid_message"⟩

/-- The ids of clients are not listed. -/
def discoveryDisabled : Refusal := ⟨401, "discovery_disabled"⟩

end Refusal

namespace Relay

/-- The message that a request has relayed, if it is in order. -/
def requested (relay : Relay) (request : RelayRequest) : Except Refusal Message :=
  if !relay.settings.keyMatches request.key then
    .error .invalidKey
  else
    match MessageKind.ofRequest? request.kind with
    | none => .error .unsupportedKind
    | some kind =>
        match relay.directory.find? request.id with
        | none => .error .sourceNotFound
        | some client =>
            if !relay.tokenMatches client request.token then
              .error .invalidToken
            else
              match RelayRequest.form.ofOctets request.body with
              | .error _ => .error .invalidMessage
              | .ok contents => .ok (RelayRequest.message kind request.id contents)

/-- Carry out a request. -/
def relayRequest (relay : Relay) (request : RelayRequest) :
    Relay × Journal × Except Refusal Unit :=
  match relay.requested request with
  | .error refusal => (relay, [], .error refusal)
  | .ok message =>
      match relay.route message with
      | (after, journal, .ok ()) => (after, journal, .ok ())
      | (after, journal, .error error) => (after, journal, .error error.refusal)

/-- The ids of all clients, for one who knows the key, if they may be listed. -/
def listPeers (relay : Relay) (key : String) : Except Refusal (List String) :=
  if !relay.settings.keyMatches key then
    .error .invalidKey
  else if !relay.settings.allowDiscovery then
    .error .discoveryDisabled
  else
    .ok relay.directory.ids

end Relay

end SignalRelay
