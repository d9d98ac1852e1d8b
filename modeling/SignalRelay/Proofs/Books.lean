import SignalRelay.Relay.Request
import SignalRelay.Relay.Session

namespace SignalRelay

/-!
# The books of a relay

The books are everything but what is queued: the settings, the clients, the directory,
and how many connections there are.  Only a handshake and the end of a session write in
them.  All other operations queue at most one item on one connection, and the lemmas
below say which.
-/

/-- Two states that differ at most in what is queued. -/
structure Relay.SameBooks (before after : Relay) : Prop where
  settings : after.settings = before.settings
  clients : after.clients = before.clients
  directory : after.directory = before.directory
  connections : after.connections.length = before.connections.length

namespace Relay

namespace SameBooks

/-- Nothing differs from itself. -/
@[refl] theorem refl
    (relay : Relay) :
    SameBooks relay relay :=
  ⟨rfl, rfl, rfl, rfl⟩

/-- Books that stay the same twice stay the same. -/
theorem trans
    {first second third : Relay}
    (earlier : SameBooks first second)
    (later : SameBooks second third) :
    SameBooks first third where
  settings := later.settings.trans earlier.settings
  clients := later.clients.trans earlier.clients
  directory := later.directory.trans earlier.directory
  connections := later.connections.trans earlier.connections

/-- A reference stands for the same client. -/
theorem client?
    {before after : Relay}
    (same : SameBooks before after)
    (reference : ClientRef) :
    after.client? reference = before.client? reference := by
  simp [Relay.client?, same.clients]

theorem clientId
    {before after : Relay}
    (same : SameBooks before after)
    (reference : ClientRef) :
    after.clientId reference = before.clientId reference := by
  simp [Relay.clientId, same.client?]

theorem connectionOf
    {before after : Relay}
    (same : SameBooks before after)
    (reference : ClientRef) :
    after.connectionOf reference = before.connectionOf reference := by
  simp [Relay.connectionOf, same.client?]

end SameBooks

/-! ## Outboxes -/

theorem outbox_withOutbox
    (relay : Relay)
    (connection other : ConnectionId)
    (outbox : Outbox) :
    (relay.withOutbox connection outbox).outbox other =
      if connection = other ∧ connection < relay.connections.length then
        outbox
      else
        relay.outbox other := by
  simp only [Relay.outbox, withOutbox, List.getElem?_modify]
  by_cases same : connection = other
  · subst other
    by_cases known : connection < relay.connections.length
    · simp [known]
    · simp [known]
  · simp [same]

theorem outbox_withOutbox_other
    {connection other : ConnectionId}
    (different : other ≠ connection)
    (relay : Relay)
    (outbox : Outbox) :
    (relay.withOutbox connection outbox).outbox other = relay.outbox other := by
  rw [outbox_withOutbox, if_neg]
  exact fun both => different both.1.symm

theorem sameBooks_withOutbox
    (relay : Relay)
    (connection : ConnectionId)
    (outbox : Outbox) :
    SameBooks relay (relay.withOutbox connection outbox) := by
  refine ⟨rfl, rfl, rfl, ?_⟩
  simp [withOutbox]

/-- A connection whose outbox takes something has been opened. -/
theorem lt_of_receiving
    {relay : Relay}
    {connection : ConnectionId}
    (receiving : (relay.outbox connection).receiving = true) :
    connection < relay.connections.length := by
  apply Decidable.byContradiction
  intro unknown
  simp [outbox, Nat.le_of_not_lt unknown, Outbox.discard] at receiving

end Relay

namespace Outbox

/-- An outbox takes an item if somebody takes from it and it holds fewer than 256. -/
def Accepts (outbox : Outbox) : Prop :=
  outbox.receiving = true ∧ outbox.items.length < 256

instance (outbox : Outbox) : Decidable outbox.Accepts :=
  inferInstanceAs (Decidable (_ ∧ _))

theorem fault?_eq_none_iff
    (outbox : Outbox) :
    outbox.fault? = none ↔ outbox.Accepts := by
  unfold fault? Accepts
  cases outbox.receiving with
  | false =>
      simp
  | true =>
      rw [capacity]
      simp

/-- An outbox that takes items puts them behind the others. -/
theorem offer_of_accepts
    {outbox : Outbox}
    (accepts : outbox.Accepts)
    (item : Outgoing) :
    outbox.offer item = .ok (outbox.push item) := by
  simp [offer, (fault?_eq_none_iff outbox).mpr accepts]

theorem offer_of_not_accepts
    {outbox : Outbox}
    (refuses : ¬ outbox.Accepts)
    (item : Outgoing) :
    ∃ fault, outbox.offer item = .error fault := by
  cases found : outbox.fault? with
  | none =>
      exact (refuses ((fault?_eq_none_iff outbox).mp found)).elim
  | some fault =>
      exact ⟨fault, by simp [offer, found]⟩

end Outbox

namespace Relay

/-! ## Sending -/

/-- A text that a connection takes is put behind what waits there. -/
theorem sendText_of_accepts
    {relay : Relay}
    {connection : ConnectionId}
    (accepts : (relay.outbox connection).Accepts)
    (text : String) :
    relay.sendText connection text =
      (relay.withOutbox connection ((relay.outbox connection).push (.text text)),
        .ok ()) := by
  simp [sendText, Outbox.offer_of_accepts accepts]

/-- A text that a connection does not take changes nothing. -/
theorem sendText_of_not_accepts
    {relay : Relay}
    {connection : ConnectionId}
    (refuses : ¬ (relay.outbox connection).Accepts)
    (text : String) :
    ∃ error, relay.sendText connection text = (relay, .error error) := by
  obtain ⟨fault, refused⟩ := Outbox.offer_of_not_accepts refuses (.text text)
  exact ⟨sendError connection fault, by simp [sendText, refused]⟩

theorem sameBooks_sendText
    (relay : Relay)
    (connection : ConnectionId)
    (text : String) :
    SameBooks relay (relay.sendText connection text).1 := by
  by_cases accepts : (relay.outbox connection).Accepts
  · rw [sendText_of_accepts accepts]
    exact sameBooks_withOutbox ..
  · obtain ⟨error, refused⟩ := sendText_of_not_accepts accepts text
    rw [refused]

theorem sameBooks_closeConnection
    (relay : Relay)
    (connection : ConnectionId) :
    SameBooks relay (relay.closeConnection connection) :=
  sameBooks_withOutbox ..

theorem sameBooks_greet
    (relay : Relay)
    (connection : ConnectionId)
    (outcome : HandshakeOutcome) :
    SameBooks relay (relay.greet connection outcome).1 := by
  cases outcome with
  | registered client =>
      exact sameBooks_sendText ..
  | reconnected client =>
      exact .refl relay
  | rejected code =>
      exact (sameBooks_sendText ..).trans (sameBooks_closeConnection ..)
  | idTaken =>
      exact sameBooks_sendText ..

theorem sameBooks_sendToClient
    (relay : Relay)
    (client : ClientRef)
    (message : Message) :
    SameBooks relay (relay.sendToClient client message).1 := by
  unfold sendToClient
  split
  · exact sameBooks_sendText ..
  · exact .refl relay

/-- Routing a message does not touch the books. -/
theorem sameBooks_route
    (relay : Relay)
    (message : Message) :
    SameBooks relay (relay.route message).1 := by
  unfold route
  split
  · exact .refl relay
  · split
    · exact .refl relay
    · next client _ =>
        have sent := sameBooks_sendToClient relay client message
        split
        · next taken => simpa [taken] using sent
        · next refused => simpa [refused] using sent

theorem sameBooks_dispatch
    (relay : Relay)
    (message : Message) :
    SameBooks relay (relay.dispatch message).1 := by
  have routed := sameBooks_route relay message
  unfold dispatch
  split
  · exact .refl relay
  · split
    · exact .refl relay
    · split
      · next done => simpa [done] using routed
      · next failed => simpa [failed] using routed

/-- Reading a frame does not touch the books. -/
theorem sameBooks_readFrame
    (relay : Relay)
    (client : ClientRef)
    (connection : ConnectionId)
    (octets : Octets) :
    SameBooks relay (relay.readFrame client connection octets).1 := by
  unfold readFrame
  split
  · exact sameBooks_dispatch ..
  · exact .refl relay

/-- Carrying out a request does not touch the books. -/
theorem sameBooks_relayRequest
    (relay : Relay)
    (request : RelayRequest) :
    SameBooks relay (relay.relayRequest request).1 := by
  unfold relayRequest
  split
  · exact .refl relay
  · next message _ =>
      have routed := sameBooks_route relay message
      split
      · next done => simpa [done] using routed
      · next failed => simpa [failed] using routed

end Relay

end SignalRelay
