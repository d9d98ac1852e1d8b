import SignalRelay.Proofs.Codec
import SignalRelay.Proofs.Tenure

namespace SignalRelay

/-!
# What a frame does

A message that is routed is queued on at most one connection: the one to which the client
is bound that is registered under the destination.  A frame that a session reads does
that and one event, and nothing else.
-/

namespace Relay

/-- A message is for a registered client that is bound to a connection which takes it. -/
def Reaches (relay : Relay) (message : Message) (target : ConnectionId) : Prop :=
  ∃ id reference client,
    message.destination = some id ∧
      id ≠ "" ∧
      relay.directory.find? id = some reference ∧
      relay.client? reference = some client ∧
      client.connection = some target ∧
      (relay.outbox target).Accepts

/-- A message of a client goes to a connection: it is of no reserved kind and reaches it. -/
def RelaysTo (relay : Relay) (message : Message) (target : ConnectionId) : Prop :=
  message.kind.text ∉ MessageKind.reservedTexts ∧ relay.Reaches message target

/-- The state after a text was queued on a connection. -/
def queued (relay : Relay) (target : ConnectionId) (text : String) : Relay :=
  relay.withOutbox target ((relay.outbox target).push (.text text))

theorem outbox_queued_same
    {relay : Relay}
    {target : ConnectionId}
    (accepts : (relay.outbox target).Accepts)
    (text : String) :
    (relay.queued target text).outbox target =
      (relay.outbox target).push (.text text) := by
  rw [queued, outbox_withOutbox, if_pos ⟨rfl, lt_of_receiving accepts.1⟩]

theorem outbox_queued_other
    {target other : ConnectionId}
    (different : other ≠ target)
    (relay : Relay)
    (text : String) :
    (relay.queued target text).outbox other = relay.outbox other :=
  outbox_withOutbox_other different ..

/-- A message that reaches a connection is queued there and counted as relayed. -/
theorem route_of_reaches
    {relay : Relay}
    {message : Message}
    {target : ConnectionId}
    (reaches : relay.Reaches message target) :
    relay.route message =
      (relay.queued target message.toText, [.tally (.relayed message.kind)], .ok ()) := by
  obtain ⟨id, reference, client, destination, nonempty, found, known, bound, accepts⟩ :=
    reaches
  have recipient : message.recipient? = some id := by
    simp [Message.recipient?, destination, nonempty]
  simp [route, recipient, found, sendToClient, connectionOf_of_client? known, bound,
    sendMessage, sendText_of_accepts accepts, queued]

/-- Sending to a client that is bound to no connection which takes it changes nothing. -/
theorem sendToClient_of_not_accepts
    {relay : Relay}
    {reference : ClientRef}
    (refuses :
      ∀ target,
        relay.connectionOf reference = some target →
        ¬ (relay.outbox target).Accepts)
    (message : Message) :
    ∃ error, relay.sendToClient reference message = (relay, .error error) := by
  unfold sendToClient
  cases bound : relay.connectionOf reference with
  | none =>
      exact ⟨_, rfl⟩
  | some target =>
      exact sendText_of_not_accepts (refuses target bound) message.toText

/-- A message that reaches no connection is not taken for the client that it is for. -/
theorem sendToClient_of_not_reaches
    {relay : Relay}
    {message : Message}
    (unreached : ∀ target, ¬ relay.Reaches message target)
    {id : String}
    {reference : ClientRef}
    (recipient : message.recipient? = some id)
    (found : relay.directory.find? id = some reference) :
    ∃ error, relay.sendToClient reference message = (relay, .error error) := by
  refine sendToClient_of_not_accepts (fun target bound accepts => ?_) message
  obtain ⟨destination, nonempty⟩ := Option.filter_eq_some_iff.mp recipient
  obtain ⟨client, known, sameConnection⟩ := Option.bind_eq_some_iff.mp bound
  exact unreached target
    ⟨id, reference, client, destination, by simpa using nonempty, found, known,
      sameConnection, accepts⟩

/-- A message that reaches no connection is queued nowhere and makes no event. -/
theorem route_of_not_reaches
    {relay : Relay}
    {message : Message}
    (unreached : ∀ target, ¬ relay.Reaches message target) :
    (relay.route message).1 = relay ∧ (relay.route message).2.1.events = [] := by
  unfold route
  split
  · exact ⟨rfl, rfl⟩
  · next id recipient =>
      split
      · exact ⟨rfl, rfl⟩
      · next reference found =>
          obtain ⟨error, refused⟩ := sendToClient_of_not_reaches unreached recipient found
          rw [refused]
          exact ⟨rfl, rfl⟩

/-- A message reaches at most one connection. -/
theorem Reaches.unique
    {relay : Relay}
    {message : Message}
    {first second : ConnectionId}
    (reachesFirst : relay.Reaches message first)
    (reachesSecond : relay.Reaches message second) :
    first = second := by
  obtain ⟨id, reference, client, destination, -, found, known, bound, -⟩ := reachesFirst
  obtain ⟨id', reference', client', destination', -, found', known', bound', -⟩ :=
    reachesSecond
  rw [destination] at destination'
  cases destination'
  rw [found] at found'
  cases found'
  rw [known] at known'
  cases known'
  rw [bound] at bound'
  exact Option.some.inj bound'

/-- Naming a source does not change where a message goes. -/
theorem relaysTo_withSource
    (relay : Relay)
    (message : Message)
    (source : String)
    (target : ConnectionId) :
    relay.RelaysTo (message.withSource source) target ↔
      relay.RelaysTo message target :=
  .rfl

theorem dispatch_of_reserved
    (relay : Relay)
    {message : Message}
    (reserved : message.kind.isReserved = true) :
    (relay.dispatch message).1 = relay ∧ (relay.dispatch message).2.events = [] := by
  unfold dispatch
  split
  · exact ⟨rfl, rfl⟩
  · exact ⟨rfl, rfl⟩

theorem dispatch_of_not_reserved
    (relay : Relay)
    {message : Message}
    (notReserved : ¬ message.kind.isReserved = true) :
    (relay.dispatch message).1 = (relay.route message).1 ∧
      (relay.dispatch message).2.events = (relay.route message).2.1.events := by
  have notHeartbeat : message.kind ≠ .heartbeat := by
    intro heartbeat
    rw [heartbeat] at notReserved
    exact notReserved rfl
  unfold dispatch
  rw [if_neg notHeartbeat, if_neg notReserved]
  split
  · next done =>
      rw [done]
      exact ⟨rfl, rfl⟩
  · next failed =>
      rw [failed]
      simp [Journal.events, JournalEntry.event?]

theorem dispatch_of_relaysTo
    {relay : Relay}
    {message : Message}
    {target : ConnectionId}
    (canonical : message.kind.Canonical)
    (relays : relay.RelaysTo message target) :
    (relay.dispatch message).1 = relay.queued target message.toText ∧
      (relay.dispatch message).2.events = [] := by
  have notReserved : ¬ message.kind.isReserved = true :=
    fun reserved => relays.1 ((MessageKind.isReserved_iff canonical).mp reserved)
  obtain ⟨sameRelay, sameEvents⟩ := relay.dispatch_of_not_reserved notReserved
  rw [sameRelay, sameEvents, route_of_reaches relays.2]
  exact ⟨rfl, rfl⟩

theorem dispatch_of_not_relaysTo
    {relay : Relay}
    {message : Message}
    (canonical : message.kind.Canonical)
    (unreached : ∀ target, ¬ relay.RelaysTo message target) :
    (relay.dispatch message).1 = relay ∧ (relay.dispatch message).2.events = [] := by
  by_cases reserved : message.kind.isReserved = true
  · exact relay.dispatch_of_reserved reserved
  · obtain ⟨sameRelay, sameEvents⟩ := relay.dispatch_of_not_reserved reserved
    rw [sameRelay, sameEvents]
    apply route_of_not_reaches
    intro target reaches
    refine unreached target ⟨?_, reaches⟩
    exact fun text => reserved ((MessageKind.isReserved_iff canonical).mpr text)

/-- A message of a client makes no events beyond the report of it. -/
theorem dispatch_events
    (relay : Relay)
    {message : Message}
    (canonical : message.kind.Canonical) :
    (relay.dispatch message).2.events = [] := by
  by_cases reached : ∃ target, relay.RelaysTo message target
  · obtain ⟨target, relays⟩ := reached
    exact (dispatch_of_relaysTo canonical relays).2
  · exact (dispatch_of_not_relaysTo canonical fun target relays =>
      reached ⟨target, relays⟩).2

theorem outbox_dispatch_of_relaysTo
    {relay : Relay}
    {message : Message}
    {target : ConnectionId}
    (canonical : message.kind.Canonical)
    (relays : relay.RelaysTo message target) :
    (relay.dispatch message).1.outbox target =
      (relay.outbox target).push (.text message.toText) := by
  rw [(dispatch_of_relaysTo canonical relays).1]
  obtain ⟨-, -, -, -, -, -, -, -, -, accepts⟩ := relays
  exact outbox_queued_same accepts _

theorem outbox_dispatch_of_not_relaysTo
    {relay : Relay}
    {message : Message}
    {target : ConnectionId}
    (canonical : message.kind.Canonical)
    (unreached : ¬ relay.RelaysTo message target) :
    (relay.dispatch message).1.outbox target = relay.outbox target := by
  by_cases reached : ∃ other, relay.RelaysTo message other
  · obtain ⟨other, relays⟩ := reached
    have different : target ≠ other := by
      intro same
      exact unreached (same ▸ relays)
    rw [(dispatch_of_relaysTo canonical relays).1, outbox_queued_other different]
  · rw [(dispatch_of_not_relaysTo canonical fun other relays =>
      reached ⟨other, relays⟩).1]

end Relay

namespace Server

variable {settings : Settings} {server : Server}

theorem events_advance
    (server : Server)
    (happening : Happening)
    (result : Relay × Journal) :
    (server.advance happening result).journal.events =
      server.journal.events ++ result.2.events := by
  simp [advance, Journal.events]

/-- A frame that cannot be decoded makes one event and is queued nowhere. -/
theorem frame_of_error
    (server : Server)
    (session : Session)
    {octets : Octets}
    {fault : Fault}
    (refused : Message.ofOctets octets = .error fault) :
    (server.frame session octets).relay = server.relay ∧
      (server.frame session octets).journal.events =
        server.journal.events ++
          [.malformed (server.relay.clientId session.client) session.connection
            (fault.report octets)] := by
  rw [frame, events_advance, Relay.readFrame, refused]
  exact ⟨rfl, rfl⟩

section Decoded

variable {session : Session} {octets : Octets} {message : Message}

/-- A frame that is decoded is acted on under the own id of its session's client. -/
theorem frame_relay_of_ok
    (read : Message.ofOctets octets = .ok message) :
    (server.frame session octets).relay =
      (server.relay.dispatch
        (message.withSource (server.relay.clientId session.client))).1 := by
  rw [frame, Relay.readFrame, read]
  rfl

theorem stamped_canonical
    (read : Message.ofOctets octets = .ok message)
    (source : String) :
    (message.withSource source).kind.Canonical := by
  change message.kind.Canonical
  exact Message.kind_canonical_of_ofOctets read

/-- A frame that is decoded makes one event, the message with its source replaced. -/
theorem frame_events_of_ok
    (read : Message.ofOctets octets = .ok message) :
    (server.frame session octets).journal.events =
      server.journal.events ++
        [.message (server.relay.clientId session.client)
          (message.withSource (server.relay.clientId session.client))] := by
  have noMore := server.relay.dispatch_events
    (stamped_canonical read (server.relay.clientId session.client))
  rw [frame, events_advance, Relay.readFrame, read]
  change _ ++ .message _ _ :: Journal.events (Relay.dispatch _ _).2 = _
  rw [noMore]

/-- Where a frame goes, its stamped message is behind what waited there. -/
theorem outbox_frame_of_relaysTo
    (read : Message.ofOctets octets = .ok message)
    {target : ConnectionId}
    (relays : server.relay.RelaysTo message target) :
    (server.frame session octets).relay.outbox target =
      (server.relay.outbox target).push
        (.text (message.withSource (server.relay.clientId session.client)).toText) := by
  rw [frame_relay_of_ok read]
  exact Relay.outbox_dispatch_of_relaysTo (stamped_canonical read _)
    ((Relay.relaysTo_withSource ..).mpr relays)

/-- Where a frame does not go, nothing is queued. -/
theorem outbox_frame_of_not_relaysTo
    (read : Message.ofOctets octets = .ok message)
    {target : ConnectionId}
    (unreached : ¬ server.relay.RelaysTo message target) :
    (server.frame session octets).relay.outbox target = server.relay.outbox target := by
  rw [frame_relay_of_ok read]
  exact Relay.outbox_dispatch_of_not_relaysTo (stamped_canonical read _)
    fun relays => unreached ((Relay.relaysTo_withSource ..).mp relays)

end Decoded

/--
The whole effect of a frame that a running session reads.  The step is always possible and
leaves the registered ids, the tokens and the bindings alone.  What cannot be decoded makes
one error event.  What can be decoded makes one message event and bears the own id of the
session's client, whatever source it named.  If it goes to a connection it is put once behind
what waits there.  The sender's own queue is left alone unless it is itself the destination.
-/
theorem frame_effect
    (reachable : Reachable settings server)
    {connection : ConnectionId}
    {session : Session}
    (running : server.session? connection = some session)
    (octets : Octets) :
    ∃ client,
      server.relay.client? session.client = some client ∧
        server.step? (.frame connection octets) = some (server.frame session octets) ∧
        Relay.SameBooks server.relay (server.frame session octets).relay ∧
        (∀ fault,
          Message.ofOctets octets = .error fault →
          (server.frame session octets).journal.events =
              server.journal.events ++
                [.malformed client.id connection (fault.report octets)] ∧
            ∀ other,
              (server.frame session octets).relay.outbox other =
                server.relay.outbox other) ∧
        (∀ message,
          Message.ofOctets octets = .ok message →
          ∃ stamped : Message,
            stamped.kind = message.kind ∧
              stamped.source = some client.id ∧
              stamped.destination = message.destination ∧
              stamped.payload = message.payload ∧
              (server.frame session octets).journal.events =
                server.journal.events ++ [.message client.id stamped] ∧
              (∀ target,
                server.relay.RelaysTo message target →
                (server.frame session octets).relay.outbox target =
                    { server.relay.outbox target with
                      items :=
                        (server.relay.outbox target).items ++ [.text stamped.toText] } ∧
                  ∀ other,
                    other ≠ target →
                    (server.frame session octets).relay.outbox other =
                      server.relay.outbox other) ∧
              ((∀ target, ¬ server.relay.RelaysTo message target) →
                ∀ other,
                  (server.frame session octets).relay.outbox other =
                    server.relay.outbox other) ∧
              (¬ server.relay.RelaysTo message connection →
                (server.frame session octets).relay.outbox connection =
                  server.relay.outbox connection)) := by
  obtain ⟨client, -, known, -⟩ := (Coherent.of_reachable reachable).of_session? running
  have ownId := Relay.clientId_of_client? known
  have sameConnection := (of_session? running).1
  refine ⟨client, known, ?_, Relay.sameBooks_readFrame .., ?_, ?_⟩
  · simp [step?, running]
  · intro fault refused
    obtain ⟨sameRelay, events⟩ := server.frame_of_error session refused
    rw [ownId, sameConnection] at events
    exact ⟨events, fun other => by rw [sameRelay]⟩
  · intro message read
    rw [← ownId]
    refine ⟨message.withSource _, rfl, rfl, rfl, rfl, frame_events_of_ok read, ?_, ?_,
      outbox_frame_of_not_relaysTo read⟩
    · intro target relays
      refine ⟨outbox_frame_of_relaysTo read relays, ?_⟩
      intro other different
      apply outbox_frame_of_not_relaysTo read
      exact fun alsoRelays => different (alsoRelays.2.unique relays.2)
    · intro unreached other
      exact outbox_frame_of_not_relaysTo read (unreached other)

/-- A client that speaks as another is relayed under its own id. -/
theorem frame_effect_of_forged_source :
    ∃ server session after,
      (start {}).run?
          [.dial none ⟨some "a", some "ta", some "peerjs"⟩,
            .dial none ⟨some "b", some "tb", some "peerjs"⟩] = some server ∧
        server.session? 0 = some session ∧
        server.step?
            (.frame 0
              (Utf8.encode
                "\x7b\"type\":\"OFFER\",\"src\":\"z\",\"dst\":\"b\",\"payload\":[7]\x7d")) =
          some after ∧
        after.journal.events =
          [.message "a" ⟨.offer, some "a", some "b", .array [.number (.integer 7)]⟩] ∧
        (after.relay.outbox 1).items =
          [.text "\x7b\"type\":\"OFFER\",\"src\":\"a\",\"dst\":\"b\",\"payload\":[7]\x7d"] ∧
        (after.relay.outbox 0).items = [] := by
  obtain ⟨client, known, stepped, -, -, effect⟩ :=
    @frame_effect {} _
      ⟨[.dial none ⟨some "a", some "ta", some "peerjs"⟩,
        .dial none ⟨some "b", some "tb", some "peerjs"⟩], rfl⟩ 0 _ rfl
      (Utf8.encode
        "\x7b\"type\":\"OFFER\",\"src\":\"z\",\"dst\":\"b\",\"payload\":[7]\x7d")
  cases known
  have read :
      Message.ofOctets
          (Utf8.encode
            "\x7b\"type\":\"OFFER\",\"src\":\"z\",\"dst\":\"b\",\"payload\":[7]\x7d") =
        .ok ⟨.offer, some "z", some "b", .array [.number (.integer 7)]⟩ :=
    @Message.ofText_toText ⟨.offer, some "z", some "b", .array [.number (.integer 7)]⟩
      (by decide) ⟨⟨by decide, by decide⟩, trivial⟩ ⟨trivial, trivial⟩ (by decide)
  obtain ⟨⟨kind, source, destination, payload⟩, rfl, rfl, rfl, rfl, told, relayed, -⟩ :=
    effect _ read
  obtain ⟨queued, others⟩ := relayed 1
    ⟨by decide, "b", 1, _, rfl, by decide, rfl, rfl, rfl, by decide⟩
  refine ⟨_, _, _, rfl, rfl, stepped, told, ?_, ?_⟩
  · rw [queued]
    rfl
  · rw [others 0 (by decide)]
    rfl

end Server

end SignalRelay
