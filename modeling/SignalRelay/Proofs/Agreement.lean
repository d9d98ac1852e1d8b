import SignalRelay.Proofs.Occupancy
import SignalRelay.Proofs.Queues
import SignalRelay.Proofs.Request

namespace SignalRelay

/-!
# Two ways to the same queue

A client may send a message as a frame on its connection, or have it relayed by a request.  The
frame is read as a whole message, and its source is then replaced; the body of a request is read
only for its destination and its payload, and kind and source are named beside it.  Where the
octets are those of an object, both ways lead to the same message and so to the same state.
-/

namespace MessageKind

/-- A request that spells a kind in whatever case names that kind, if requests may. -/
theorem ofRequest?_of_sameUpToCase
    {spelling : String}
    {kind : MessageKind}
    (requestable : kind ∈ requestable)
    (spelled : SameUpToCase spelling kind.text) :
    ofRequest? spelling = some kind := by
  have spelledOut :
      ∀ kind ∈ MessageKind.requestable, ofText (capitals kind.text) = kind := by
    decide
  have same : ofText (capitals spelling) = kind := by
    rw [(capitals_eq_iff spelling kind.text).mpr spelled, spelledOut kind requestable]
  unfold ofRequest?
  change (if ofText (capitals spelling) ∈ MessageKind.requestable then
    some (ofText (capitals spelling)) else none) = some kind
  rw [same, if_pos requestable]

/-- Requests may ask only for kinds that are not reserved. -/
theorem isReserved_of_requestable
    {kind : MessageKind}
    (requestable : kind ∈ requestable) :
    kind.isReserved = false := by
  revert kind
  decide

end MessageKind

namespace Relay

/-- A request that presents the key of the relay and the token of a registered client, and
whose body is an object that holds a message of the kind that it names, has that message
relayed, with the id of the client as its source. -/
theorem requested_of_ofOctets
    {relay : Relay}
    {id : String}
    {reference : ClientRef}
    {client : Client}
    (registered : relay.directory.find? id = some reference)
    (known : relay.client? reference = some client)
    {octets : Octets}
    (object : RecordForm.OpensObject octets)
    {message : Message}
    (read : Message.ofOctets octets = .ok message)
    (requestable : message.kind ∈ MessageKind.requestable)
    {kind : String}
    (spelled : MessageKind.SameUpToCase kind message.kind.text) :
    relay.requested ⟨relay.settings.key, id, client.token, kind, octets⟩ =
      .ok (message.withSource id) := by
  have authorized : relay.tokenMatches reference client.token = true :=
    (tokenMatches_iff ..).mpr ⟨client, known, rfl⟩
  have named := MessageKind.ofRequest?_of_sameUpToCase requestable spelled
  obtain ⟨contents, readBody, same⟩ := RelayRequest.message_of_ofOctets object read id
  simp [requested, Settings.keyMatches, named, registered, authorized, readBody, same]

end Relay

namespace Server

variable {settings : Settings} {server : Server}

/--
A request leads to the same state as a frame.  The octets hold an object and are those of a
message that requests may ask for.  They are the body of a request that presents the key, the
id and the token of a registered client and names the kind of the message in whatever case; or
a session of a client with that id reads them.  Either way the message is routed with the id
as its source, and nothing else is done.
-/
theorem request_agrees_with_frame
    (reachable : Reachable settings server)
    {id : String}
    {reference : ClientRef}
    {client : Client}
    (registered : server.relay.directory.find? id = some reference)
    (known : server.relay.client? reference = some client)
    {connection : ConnectionId}
    {session : Session}
    (running : server.session? connection = some session)
    (own : server.relay.clientId session.client = server.relay.clientId reference)
    {octets : Octets}
    (object : RecordForm.OpensObject octets)
    {message : Message}
    (read : Message.ofOctets octets = .ok message)
    (requestable : message.kind ∈ MessageKind.requestable)
    {kind : String}
    (spelled : MessageKind.SameUpToCase kind message.kind.text) :
    ∃ framed requested,
      server.step? (.frame connection octets) = some framed ∧
        server.step? (.request ⟨settings.key, id, client.token, kind, octets⟩) =
          some requested ∧
        requested.relay = framed.relay ∧
        framed.relay = (server.relay.route (message.withSource id)).1 := by
  have ordered :=
    Relay.requested_of_ofOctets registered known object read requestable spelled
  rw [settings_of_reachable reachable] at ordered
  obtain ⟨holder, _, _, _, _, tenure⟩ :=
    (Coherent.of_reachable reachable).held id reference registered
  have ownId : server.relay.clientId session.client = id := by
    rw [own, Relay.clientId_of_client? tenure.known, tenure.ownId]
  have unreserved : (message.withSource id).kind.isReserved = false :=
    MessageKind.isReserved_of_requestable requestable
  have framed :
      (server.frame session octets).relay =
        (server.relay.route (message.withSource id)).1 := by
    rw [frame_relay_of_ok read, ownId]
    exact (server.relay.dispatch_of_not_reserved (Bool.eq_false_iff.mp unreserved)).1
  refine ⟨server.frame session octets, _, by simp [step?, running], rfl, ?_, framed⟩
  rw [request_relay_of_ok ordered, framed]

/-- The request skips what the frame keeps: an escaped source, a number that is out of range,
a kind that the request names itself. -/
theorem request_agrees_with_frame_on_loose_members :
    ∃ server framed requested,
      (start {}).run?
          [.dial none ⟨some "a", some "ta", some "peerjs"⟩,
            .dial none ⟨some "b", some "tb", some "peerjs"⟩] = some server ∧
        server.step?
            (.frame 0 (Utf8.encode ("\x7b\"src\":\"\\ud83d\\ude00\",\"x\":[1e999]," ++
              "\"type\":\"OFFER\",\"dst\":\"b\"\x7d"))) = some framed ∧
        server.step?
            (.request ⟨"peerjs", "a", "ta", "oFFer",
              Utf8.encode ("\x7b\"src\":\"\\ud83d\\ude00\",\"x\":[1e999]," ++
                "\"type\":\"OFFER\",\"dst\":\"b\"\x7d")⟩) = some requested ∧
        requested.relay = framed.relay ∧
        (framed.relay.outbox 1).items =
          [.text "\x7b\"type\":\"OFFER\",\"src\":\"a\",\"dst\":\"b\"\x7d"] := by
  obtain ⟨framed, requested, framedStep, requestedStep, same, routed⟩ :=
    @request_agrees_with_frame {} _
      ⟨[.dial none ⟨some "a", some "ta", some "peerjs"⟩,
        .dial none ⟨some "b", some "tb", some "peerjs"⟩], rfl⟩
      "a" 0 ⟨"a", "ta", some 0⟩ rfl rfl 0 ⟨0, 0, 0⟩ rfl rfl
      (Utf8.encode ("\x7b\"src\":\"\\ud83d\\ude00\",\"x\":[1e999]," ++
        "\"type\":\"OFFER\",\"dst\":\"b\"\x7d"))
      (by decide) ⟨.offer, some "😀", some "b", .null⟩ rfl (by decide) "oFFer" rfl
  exact ⟨_, framed, requested, rfl, framedStep, requestedStep, same, by rw [routed]; rfl⟩

end Server

end SignalRelay
