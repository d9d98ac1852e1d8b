import SignalRelay.Proofs.Delivery

namespace SignalRelay

/-!
# What acts do to queues

The queue of a connection grows by messages that are relayed to it, by the notice about its
own handshake, and by closings.  `OutboxStep` says for every act what it can do to one
outbox; whatever holds of queues over whole runs follows from that by cases.
-/

/-- The text of an item, if it is one. -/
def Outgoing.text? : Outgoing → Option String
  | .text content => some content
  | .close => none

namespace Outbox

/-- The outbox after an item was offered to it, whether it took it or not. -/
def afterOffer (item : Outgoing) (outbox : Outbox) : Outbox :=
  if outbox.Accepts then outbox.push item else outbox

/-- The outbox of a connection after it was told how its handshake ended. -/
def greeted (outcome : HandshakeOutcome) (outbox : Outbox) : Outbox :=
  let told :=
    match Relay.notice? outcome with
    | some message => outbox.afterOffer (.text message.toText)
    | none => outbox
  match outcome with
  | .rejected _ => told.close
  | .registered _ | .reconnected _ | .idTaken => told

/-- What a later outbox holds behind the items that an earlier one held. -/
def gained (before after : Outbox) : List Outgoing :=
  after.items.drop before.items.length

/-- A closing is queued, or asked for ahead of the queue. -/
def HoldsClosing (outbox : Outbox) : Prop :=
  .close ∈ outbox.items ∨ outbox.closeRequested = true

theorem gained_of_append
    {before after : Outbox}
    {items : List Outgoing}
    (grown : after.items = before.items ++ items) :
    gained before after = items := by
  simp [gained, grown]

theorem gained_of_le
    {before after : Outbox}
    (shrunk : after.items.length ≤ before.items.length) :
    gained before after = [] :=
  List.drop_eq_nil_of_le shrunk

theorem close_of_accepts
    {outbox : Outbox}
    (accepts : outbox.Accepts) :
    outbox.close = outbox.push .close := by
  simp [close, offer_of_accepts accepts]

/-- A closing that is not queued leaves the queue as it is. -/
theorem close_of_not_accepts
    {outbox : Outbox}
    (refuses : ¬outbox.Accepts) :
    outbox.close.items = outbox.items ∧ outbox.close.receiving = outbox.receiving := by
  obtain ⟨fault, refused⟩ := offer_of_not_accepts refuses .close
  unfold close
  rw [refused]
  cases fault with
  | full => exact ⟨rfl, rfl⟩
  | closed => exact ⟨rfl, rfl⟩

/-- To send and to close leave the receiving end as it is. -/
theorem receiving_close
    (outbox : Outbox) :
    outbox.close.receiving = outbox.receiving := by
  by_cases accepts : outbox.Accepts
  · rw [close_of_accepts accepts]
    rfl
  · exact (close_of_not_accepts accepts).2

theorem receiving_afterOffer
    (item : Outgoing)
    (outbox : Outbox) :
    (outbox.afterOffer item).receiving = outbox.receiving := by
  unfold afterOffer
  split <;> rfl

/-- Why an item cannot be queued. -/
theorem of_fault?
    {outbox : Outbox}
    {fault : OutboxFault}
    (found : outbox.fault? = some fault) :
    (fault = .closed ∧ outbox.receiving = false) ∨
      (fault = .full ∧ outbox.receiving = true ∧ capacity ≤ outbox.items.length) := by
  unfold fault? at found
  split at found
  · next idle =>
      cases found
      exact .inl ⟨rfl, by simpa using idle⟩
  · next receiving =>
      split at found
      · next full =>
          cases found
          exact .inr ⟨rfl, by simpa using receiving, full⟩
      · cases found

theorem close_of_not_receiving
    {outbox : Outbox}
    (idle : outbox.receiving = false) :
    outbox.close = outbox := by
  simp [close, offer, fault?, idle]

/-- A closing overtakes a full queue. -/
theorem close_of_full
    {outbox : Outbox}
    (receiving : outbox.receiving = true)
    (full : capacity ≤ outbox.items.length) :
    outbox.close = { outbox with closeRequested := true } := by
  simp [close, offer, fault?, receiving, full]

theorem gained_close
    (outbox : Outbox) :
    gained outbox outbox.close = if outbox.Accepts then [.close] else [] := by
  split
  · next accepts =>
      rw [close_of_accepts accepts]
      exact gained_of_append rfl
  · next refuses =>
      exact gained_of_le (Nat.le_of_eq (congrArg List.length (close_of_not_accepts refuses).1))

theorem gained_afterOffer
    (item : Outgoing)
    (outbox : Outbox) :
    gained outbox (outbox.afterOffer item) = if outbox.Accepts then [item] else [] := by
  unfold afterOffer
  split
  · exact gained_of_append rfl
  · exact gained_of_le (Nat.le_refl _)

theorem items_close
    (outbox : Outbox) :
    outbox.close.items = outbox.items ++ gained outbox outbox.close := by
  rw [gained_close]
  split
  · next accepts =>
      rw [close_of_accepts accepts]
      rfl
  · next refuses =>
      rw [(close_of_not_accepts refuses).1, List.append_nil]

theorem items_afterOffer
    (item : Outgoing)
    (outbox : Outbox) :
    (outbox.afterOffer item).items = outbox.items ++ gained outbox (outbox.afterOffer item) := by
  rw [gained_afterOffer]
  unfold afterOffer
  split
  · rfl
  · exact (List.append_nil _).symm

/-- To be told how a handshake ended is to be given the notice, and a closing if that is a
rejection, as far as there is room. -/
theorem items_greeted
    (outcome : HandshakeOutcome)
    (outbox : Outbox) :
    ∃ told closing,
      (outbox.greeted outcome).items = outbox.items ++ (told ++ closing) ∧
        (told = [] ∨
          ∃ notice, Relay.notice? outcome = some notice ∧ told = [.text notice.toText]) ∧
        (closing = [] ∨ closing = [.close]) := by
  have offered (item : Outgoing) :
      ∃ told,
        (outbox.afterOffer item).items = outbox.items ++ told ∧
          (told = [] ∨ told = [item]) := by
    refine ⟨_, items_afterOffer item outbox, ?_⟩
    rw [gained_afterOffer]
    split
    · exact .inr rfl
    · exact .inl rfl
  cases outcome with
  | reconnected client =>
      exact ⟨[], [], (List.append_nil _).symm, .inl rfl, .inl rfl⟩
  | registered client | idTaken =>
      obtain ⟨told, grown, shape⟩ := offered _
      exact ⟨told, [], by rw [List.append_nil]; exact grown,
        shape.imp_right fun same => ⟨_, rfl, same⟩, .inl rfl⟩
  | rejected code =>
      obtain ⟨told, grown, shape⟩ := offered (.text (Message.refusal code).toText)
      let toldOutbox := outbox.afterOffer (.text (Message.refusal code).toText)
      refine ⟨told, gained toldOutbox toldOutbox.close, ?_,
        shape.imp_right fun same => ⟨_, rfl, same⟩, ?_⟩
      · rw [← List.append_assoc, ← grown]
        exact items_close toldOutbox
      · rw [gained_close]
        split
        · exact .inr rfl
        · exact .inl rfl

theorem holdsClosing_afterOffer_text
    (outbox : Outbox)
    (text : String) :
    (outbox.afterOffer (.text text)).HoldsClosing ↔ outbox.HoldsClosing := by
  unfold afterOffer
  split
  · simp [HoldsClosing, push]
  · rfl

/-- Only one who is rejected is closed when he is told how his handshake ended. -/
theorem holdsClosing_of_greeted
    {outbox : Outbox}
    {outcome : HandshakeOutcome}
    (holds : (outbox.greeted outcome).HoldsClosing) :
    outbox.HoldsClosing ∨ ∃ code, outcome = .rejected code := by
  cases outcome with
  | registered client | idTaken =>
      exact .inl ((holdsClosing_afterOffer_text ..).mp holds)
  | reconnected client =>
      exact .inl holds
  | rejected code =>
      exact .inr ⟨code, rfl⟩

/-- What is written next is a closing that was asked for, or the first of the items. -/
theorem next?_eq_some
    {outbox rest : Outbox}
    {item : Outgoing}
    (taken : outbox.next? = some (item, rest)) :
    (outbox.closeRequested = true ∧
        item = .close ∧
        rest = { outbox with closeRequested := false }) ∨
      (outbox.closeRequested = false ∧
        outbox.items = item :: rest.items ∧
        rest = { outbox with items := rest.items }) := by
  unfold next? at taken
  split at taken
  · next requested =>
      cases taken
      exact .inl ⟨requested, rfl, rfl⟩
  · next quiet =>
      split at taken
      · cases taken
      · next held =>
          cases taken
          exact .inr ⟨by simpa using quiet, held, rfl⟩

theorem receiving_of_next?
    {outbox rest : Outbox}
    {item : Outgoing}
    (taken : outbox.next? = some (item, rest)) :
    rest.receiving = outbox.receiving := by
  rcases next?_eq_some taken with ⟨-, -, rfl⟩ | ⟨-, -, same⟩
  · rfl
  · rw [same]

theorem holdsClosing_of_next?_close
    {outbox rest : Outbox}
    (taken : outbox.next? = some (.close, rest)) :
    outbox.HoldsClosing := by
  rcases next?_eq_some taken with ⟨requested, -, -⟩ | ⟨-, held, -⟩
  · exact .inr requested
  · exact .inl (held ▸ List.mem_cons_self)

theorem holdsClosing_of_next?
    {outbox rest : Outbox}
    {item : Outgoing}
    (taken : outbox.next? = some (item, rest))
    (holds : rest.HoldsClosing) :
    outbox.HoldsClosing := by
  rcases next?_eq_some taken with ⟨requested, -, -⟩ | ⟨-, held, same⟩
  · exact .inr requested
  · rcases holds with queued | requested
    · exact .inl (held ▸ List.mem_cons_of_mem _ queued)
    · rw [same] at requested
      exact .inr requested

end Outbox

namespace Relay

theorem outbox_sendText_same
    (relay : Relay)
    (connection : ConnectionId)
    (text : String) :
    (relay.sendText connection text).1.outbox connection =
      (relay.outbox connection).afterOffer (.text text) := by
  unfold Outbox.afterOffer
  split
  · next accepts =>
      rw [sendText_of_accepts accepts]
      exact outbox_queued_same accepts text
  · next refuses =>
      obtain ⟨error, refused⟩ := sendText_of_not_accepts refuses text
      rw [refused]

theorem outbox_sendText_other
    {connection other : ConnectionId}
    (different : other ≠ connection)
    (relay : Relay)
    (text : String) :
    (relay.sendText connection text).1.outbox other = relay.outbox other := by
  by_cases accepts : (relay.outbox connection).Accepts
  · rw [sendText_of_accepts accepts]
    exact outbox_queued_other different relay text
  · obtain ⟨error, refused⟩ := sendText_of_not_accepts accepts text
    rw [refused]

/-- Replacing an outbox that there is not changes nothing. -/
theorem outbox_withOutbox_same
    {relay : Relay}
    {connection : ConnectionId}
    {outbox : Outbox}
    (unknown : connection < relay.connections.length ∨ outbox = relay.outbox connection) :
    (relay.withOutbox connection outbox).outbox connection = outbox := by
  rw [outbox_withOutbox]
  split
  · rfl
  · next notKnown =>
      rcases unknown with known | same
      · exact (notKnown ⟨rfl, known⟩).elim
      · exact same.symm

/-- An outbox that there is not takes nothing and holds nothing. -/
theorem outbox_of_le
    {relay : Relay}
    {connection : ConnectionId}
    (unknown : relay.connections.length ≤ connection) :
    relay.outbox connection = Outbox.empty.discard := by
  simp [outbox, unknown]

theorem outbox_closeConnection_same
    (relay : Relay)
    (connection : ConnectionId) :
    (relay.closeConnection connection).outbox connection =
      (relay.outbox connection).close := by
  apply outbox_withOutbox_same
  rcases Nat.lt_or_ge connection relay.connections.length with known | unknown
  · exact .inl known
  · right
    rw [outbox_of_le unknown]
    rfl

theorem outbox_closeConnection_other
    {connection other : ConnectionId}
    (different : other ≠ connection)
    (relay : Relay) :
    (relay.closeConnection connection).outbox other = relay.outbox other :=
  outbox_withOutbox_other different ..

theorem outbox_greet_same
    (relay : Relay)
    (connection : ConnectionId)
    (outcome : HandshakeOutcome) :
    (relay.greet connection outcome).1.outbox connection =
      (relay.outbox connection).greeted outcome := by
  cases outcome with
  | registered client =>
      exact relay.outbox_sendText_same connection _
  | reconnected client =>
      rfl
  | rejected code =>
      change (closeConnection _ connection).outbox connection = _
      rw [outbox_closeConnection_same]
      exact congrArg Outbox.close (relay.outbox_sendText_same connection _)
  | idTaken =>
      exact relay.outbox_sendText_same connection _

theorem outbox_greet_other
    {connection other : ConnectionId}
    (different : other ≠ connection)
    (relay : Relay)
    (outcome : HandshakeOutcome) :
    (relay.greet connection outcome).1.outbox other = relay.outbox other := by
  cases outcome with
  | registered client =>
      exact outbox_sendText_other different relay _
  | reconnected client =>
      rfl
  | rejected code =>
      change (closeConnection _ connection).outbox other = _
      rw [outbox_closeConnection_other different]
      exact outbox_sendText_other different relay _
  | idTaken =>
      exact outbox_sendText_other different relay _

/-- What a message does to one outbox when it is routed. -/
theorem outbox_route
    (relay : Relay)
    (message : Message)
    (connection : ConnectionId) :
    (relay.Reaches message connection ∧
        (relay.route message).1.outbox connection =
          (relay.outbox connection).push (.text message.toText)) ∨
      (relay.route message).1.outbox connection = relay.outbox connection := by
  by_cases reached : ∃ target, relay.Reaches message target
  · obtain ⟨target, reaches⟩ := reached
    rw [route_of_reaches reaches]
    by_cases same : connection = target
    · subst same
      obtain ⟨-, -, -, -, -, -, -, -, accepts⟩ := id reaches
      exact .inl ⟨reaches, outbox_queued_same accepts _⟩
    · exact .inr (outbox_queued_other same relay _)
  · rw [(route_of_not_reaches fun target reaches => reached ⟨target, reaches⟩).1]
    exact .inr rfl

theorem handshake_connections
    (relay : Relay)
    (parameters : HandshakeParameters)
    (connection : ConnectionId) :
    (relay.handshake parameters connection).1.connections = relay.connections := by
  have result := relay.handshake_result parameters connection
  generalize relay.handshake parameters connection = shaken at result
  cases result with
  | refused clientless => rfl
  | rebound presentsId presentsToken registered known => rfl
  | registered presentsId presentsToken unknown room => rfl

theorem outbox_endSession
    (relay : Relay)
    (session : Session)
    (connection : ConnectionId) :
    (relay.endSession session).1.outbox connection =
      if connection = session.connection then
        (relay.outbox connection).close
      else
        relay.outbox connection := by
  have sameOutbox (other : ConnectionId) :
      (relay.unregisterBound (relay.clientId session.client) session.connection).outbox other =
        relay.outbox other := by
    unfold unregisterBound
    split <;> rfl
  change (closeConnection _ session.connection).outbox connection = _
  split
  · next same =>
      subst same
      rw [outbox_closeConnection_same, sameOutbox]
  · next different =>
      rw [outbox_closeConnection_other different, sameOutbox]

end Relay

/-- The connection whose outbox an act works on, whatever it may relay besides. -/
def Act.worksOn? : Act → Option ConnectionId
  | .greet connection | .expire connection | .finish connection
  | .write connection | .abandon connection => some connection
  | .dial .. | .frame .. | .request _ => none

/-- An act that works on another outbox neither greets a connection nor ends its grace. -/
theorem Act.of_worksOn?_ne
    {act : Act}
    {connection : ConnectionId}
    (elsewhere : act.worksOn? ≠ some connection) :
    act.greeted? ≠ some connection ∧ act.expired? ≠ some connection := by
  cases act with
  | greet => exact ⟨elsewhere, (Option.some_ne_none _).symm⟩
  | expire => exact ⟨(Option.some_ne_none _).symm, elsewhere⟩
  | dial | frame | request | finish | write | abandon =>
      exact ⟨(Option.some_ne_none _).symm, (Option.some_ne_none _).symm⟩

/-- Whether an act may relay a message. -/
def Act.isRelaying : Act → Bool
  | .frame .. | .request _ => true
  | _ => false

namespace Server

/-- The message that an act relays: one that a session read and that is not reserved, with
its source replaced, or one that a request asks for. -/
inductive Relays (server : Server) : Act → Message → Prop where
  | frame
      {connection : ConnectionId}
      {session : Session}
      {octets : Octets}
      {message : Message}
      (running : server.session? connection = some session)
      (read : Message.ofOctets octets = .ok message)
      (unreserved : message.kind.text ∉ MessageKind.reservedTexts) :
      Relays server (.frame connection octets)
        (message.withSource (server.relay.clientId session.client))
  | request
      {request : RelayRequest}
      {message : Message}
      (ordered : server.relay.requested request = .ok message) :
      Relays server (.request request) message

/-- Everything that an act can do to the outbox of a connection. -/
inductive OutboxStep
    (server : Server)
    (connection : ConnectionId) :
    Act → Outbox → Prop where
  | kept
      {act : Act}
      (elsewhere : act.worksOn? ≠ some connection) :
      OutboxStep server connection act (server.relay.outbox connection)
  | opened
      {address : Option SocketAddress}
      {parameters : HandshakeParameters}
      (fresh : connection = server.nextConnection) :
      OutboxStep server connection (.dial address parameters) .empty
  | relayed
      {act : Act}
      {message : Message}
      (relays : server.Relays act message)
      (reaches : server.relay.Reaches message connection) :
      OutboxStep server connection act
        ((server.relay.outbox connection).push (.text message.toText))
  | greeted
      {meeting : Meeting}
      (ungreeted : server.ungreeted? connection = some meeting) :
      OutboxStep server connection (.greet connection)
        ((server.relay.outbox connection).greeted meeting.outcome)
  | expired
      (awaits : server.awaitsExpiry connection = true) :
      OutboxStep server connection (.expire connection)
        (server.relay.outbox connection).close
  | finished
      {session : Session}
      (running : server.session? connection = some session) :
      OutboxStep server connection (.finish connection)
        (server.relay.outbox connection).close
  | written
      {item : Outgoing}
      {rest : Outbox}
      (writing : server.writing? connection = some (item, rest)) :
      OutboxStep server connection (.write connection) rest
  | abandoned :
      OutboxStep server connection (.abandon connection)
        (server.relay.outbox connection).discard

/-- A writer only writes while it takes from its outbox, and not behind a closing. -/
theorem of_writing?
    {server : Server}
    {connection : ConnectionId}
    {item : Outgoing}
    {rest : Outbox}
    (writing : server.writing? connection = some (item, rest)) :
    (server.relay.outbox connection).receiving = true ∧
      connection ∉ server.closedConnections ∧
      (server.relay.outbox connection).next? = some (item, rest) := by
  unfold writing? at writing
  simp only [Option.ite_none_right_eq_some, Bool.and_eq_true, decide_eq_true_eq] at writing
  obtain ⟨⟨receiving, unclosed⟩, taken⟩ := writing
  exact ⟨receiving, unclosed, taken⟩

theorem suffix_of_writing?
    {server : Server}
    {connection : ConnectionId}
    {item : Outgoing}
    {rest : Outbox}
    (writing : server.writing? connection = some (item, rest)) :
    rest.items <:+ (server.relay.outbox connection).items := by
  obtain ⟨-, -, taken⟩ := of_writing? writing
  rcases Outbox.next?_eq_some taken with ⟨-, -, rfl⟩ | ⟨-, held, -⟩
  · exact List.suffix_refl _
  · exact held ▸ List.suffix_cons ..

theorem outbox_dial
    (server : Server)
    (address : Option SocketAddress)
    (parameters : HandshakeParameters)
    (connection : ConnectionId) :
    (server.dial address parameters).relay.outbox connection =
      if connection = server.nextConnection then
        .empty
      else
        server.relay.outbox connection := by
  have opened :
      (server.dial address parameters).relay.connections =
        server.relay.connections ++ [⟨address, .empty⟩] :=
    Relay.handshake_connections ..
  by_cases fresh : connection = server.nextConnection
  · subst fresh
    rw [if_pos rfl]
    unfold Relay.outbox nextConnection
    rw [opened, List.getElem?_concat_length]
  · rw [if_neg fresh]
    rcases Nat.lt_or_gt_of_ne fresh with known | unknown
    · unfold Relay.outbox
      rw [opened, List.getElem?_append_left known]
    · rw [Relay.outbox_of_le (Nat.le_of_lt unknown), Relay.outbox_of_le]
      rw [opened, List.length_append]
      exact unknown

/-- A frame relays one message to one connection at most. -/
theorem outboxStep_frame
    {server : Server}
    {source : ConnectionId}
    {session : Session}
    (running : server.session? source = some session)
    (octets : Octets)
    (connection : ConnectionId) :
    OutboxStep server connection (.frame source octets)
      ((server.frame session octets).relay.outbox connection) := by
  cases read : Message.ofOctets octets with
  | error fault =>
      rw [(server.frame_of_error session read).1]
      exact .kept (Option.some_ne_none _).symm
  | ok message =>
      by_cases relays : server.relay.RelaysTo message connection
      · rw [outbox_frame_of_relaysTo read relays]
        exact .relayed (.frame running read relays.1) relays.2
      · rw [outbox_frame_of_not_relaysTo read relays]
        exact .kept (Option.some_ne_none _).symm

/-- A request that is in order has its message routed. -/
theorem request_relay_of_ok
    {server : Server}
    {request : RelayRequest}
    {message : Message}
    (ordered : server.relay.requested request = .ok message) :
    (server.request request).relay = (server.relay.route message).1 := by
  simp only [Server.request, advance, Relay.relayRequest, ordered]
  split
  · next done => rw [done]
  · next failed => rw [failed]

theorem outboxStep_request
    (server : Server)
    (request : RelayRequest)
    (connection : ConnectionId) :
    OutboxStep server connection (.request request)
      ((server.request request).relay.outbox connection) := by
  cases ordered : server.relay.requested request with
  | error refusal =>
      have same : (server.request request).relay = server.relay := by
        simp [Server.request, advance, Relay.relayRequest, ordered]
      rw [same]
      exact .kept (Option.some_ne_none _).symm
  | ok message =>
      rw [request_relay_of_ok ordered]
      rcases server.relay.outbox_route message connection with ⟨reaches, queued⟩ | kept
      · rw [queued]
        exact .relayed (.request ordered) reaches
      · rw [kept]
        exact .kept (Option.some_ne_none _).symm

/-- Every act does to every outbox one of the things that it can do. -/
theorem outboxStep_of_step?
    {server after : Server}
    {act : Act}
    (stepped : server.step? act = some after)
    (connection : ConnectionId) :
    OutboxStep server connection act (after.relay.outbox connection) := by
  cases act with
  | dial address parameters =>
      cases stepped
      rw [outbox_dial]
      split
      · next fresh => exact .opened fresh
      · exact .kept (Option.some_ne_none _).symm
  | greet greetedConnection =>
      obtain ⟨meeting, ungreeted, rfl⟩ := Option.map_eq_some_iff.mp stepped
      obtain ⟨-, rfl, -⟩ := of_ungreeted? ungreeted
      change OutboxStep server connection _
        ((server.relay.greet meeting.connection meeting.outcome).1.outbox connection)
      by_cases same : connection = meeting.connection
      · subst same
        rw [Relay.outbox_greet_same]
        exact .greeted ungreeted
      · rw [Relay.outbox_greet_other same]
        exact .kept (by simpa [Act.worksOn?] using Ne.symm same)
  | expire expiredConnection =>
      simp only [step?, Option.ite_none_right_eq_some, Option.some.injEq] at stepped
      obtain ⟨awaits, rfl⟩ := stepped
      change OutboxStep server connection _
        ((server.relay.closeConnection expiredConnection).outbox connection)
      by_cases same : connection = expiredConnection
      · subst same
        rw [Relay.outbox_closeConnection_same]
        exact .expired awaits
      · rw [Relay.outbox_closeConnection_other same]
        exact .kept (by simpa [Act.worksOn?] using Ne.symm same)
  | frame source octets =>
      obtain ⟨session, running, rfl⟩ := Option.map_eq_some_iff.mp stepped
      exact outboxStep_frame running octets connection
  | request request =>
      cases stepped
      exact server.outboxStep_request request connection
  | finish finishedConnection =>
      obtain ⟨session, running, rfl⟩ := Option.map_eq_some_iff.mp stepped
      have own := (of_session? running).1
      change OutboxStep server connection _
        ((server.relay.endSession session).1.outbox connection)
      rw [Relay.outbox_endSession]
      split
      · next same =>
          rw [same, own]
          exact .finished running
      · next different =>
          rw [own] at different
          exact .kept (by simpa [Act.worksOn?] using Ne.symm different)
  | write writingConnection =>
      obtain ⟨⟨item, rest⟩, writing, rfl⟩ := Option.map_eq_some_iff.mp stepped
      change OutboxStep server connection _
        ((server.relay.withOutbox writingConnection rest).outbox connection)
      by_cases same : connection = writingConnection
      · subst same
        rw [Relay.outbox_withOutbox_same
          (.inl (Relay.lt_of_receiving (of_writing? writing).1))]
        exact .written writing
      · rw [Relay.outbox_withOutbox_other same]
        exact .kept (by simpa [Act.worksOn?] using Ne.symm same)
  | abandon abandonedConnection =>
      cases stepped
      change OutboxStep server connection _
        ((server.relay.withOutbox abandonedConnection _).outbox connection)
      by_cases same : connection = abandonedConnection
      · subst same
        rw [Relay.outbox_withOutbox_same]
        · exact .abandoned
        · rcases Nat.lt_or_ge connection server.relay.connections.length with known | unknown
          · exact .inl known
          · right
            rw [Relay.outbox_of_le unknown]
            rfl
      · rw [Relay.outbox_withOutbox_other same]
        exact .kept (by simpa [Act.worksOn?] using Ne.symm same)

/-- What may relay a message leaves an outbox alone or puts one message behind the others. -/
theorem outbox_of_relaying
    {server after : Server}
    {act : Act}
    (stepped : server.step? act = some after)
    (relaying : act.isRelaying = true)
    (connection : ConnectionId) :
    after.relay.outbox connection = server.relay.outbox connection ∨
      ∃ message,
        server.Relays act message ∧
          server.relay.Reaches message connection ∧
          after.relay.outbox connection =
            (server.relay.outbox connection).push (.text message.toText) := by
  have step := outboxStep_of_step? stepped connection
  generalize after.relay.outbox connection = outbox at step ⊢
  cases step with
  | kept elsewhere =>
      exact .inl rfl
  | relayed relays reaches =>
      exact .inr ⟨_, relays, reaches, rfl⟩
  | opened | greeted | expired | finished | written | abandoned =>
      cases relaying

/-- A message that an act relays is queued on the connection that it reaches. -/
theorem outbox_of_relays
    {server after : Server}
    {act : Act}
    {message : Message}
    {target : ConnectionId}
    (stepped : server.step? act = some after)
    (relays : server.Relays act message)
    (reaches : server.relay.Reaches message target) :
    after.relay.outbox target =
      (server.relay.outbox target).push (.text message.toText) := by
  cases relays with
  | frame running read unreserved =>
      rw [step?, running] at stepped
      cases stepped
      exact outbox_frame_of_relaysTo read ⟨unreserved, reaches⟩
  | request ordered =>
      cases stepped
      rw [request_relay_of_ok ordered, Relay.route_of_reaches reaches]
      obtain ⟨-, -, -, -, -, -, -, -, accepts⟩ := reaches
      exact Relay.outbox_queued_same accepts _

/-- An act puts something behind what is queued, or at most takes away from it. -/
theorem items_of_step?
    {server after : Server}
    {act : Act}
    (stepped : server.step? act = some after)
    (connection : ConnectionId) :
    (after.relay.outbox connection).items =
        (server.relay.outbox connection).items ++
          Outbox.gained (server.relay.outbox connection) (after.relay.outbox connection) ∨
      Outbox.gained (server.relay.outbox connection) (after.relay.outbox connection) = [] ∧
        (after.relay.outbox connection).items <:+ (server.relay.outbox connection).items := by
  have step := outboxStep_of_step? stepped connection
  generalize after.relay.outbox connection = outbox at step ⊢
  cases step with
  | kept elsewhere =>
      exact .inr ⟨Outbox.gained_of_le (Nat.le_refl _), List.suffix_refl _⟩
  | opened fresh =>
      exact .inr ⟨Outbox.gained_of_le (Nat.zero_le _), List.nil_suffix⟩
  | relayed relays reaches =>
      rw [Outbox.gained_of_append rfl]
      exact .inl rfl
  | greeted ungreeted =>
      obtain ⟨told, closing, grown, -, -⟩ := Outbox.items_greeted _ _
      rw [Outbox.gained_of_append grown]
      exact .inl grown
  | expired awaits =>
      exact .inl (Outbox.items_close ..)
  | finished running =>
      exact .inl (Outbox.items_close ..)
  | written writing =>
      have shorter := suffix_of_writing? writing
      exact .inr ⟨Outbox.gained_of_le shorter.length_le, shorter⟩
  | abandoned =>
      exact .inr ⟨Outbox.gained_of_le (Nat.zero_le _), List.nil_suffix⟩

/-! ## What a queue accepts in a run -/

/-- What the queue of a connection takes in while acts are done to a server. -/
def accepted (connection : ConnectionId) : Server → List Act → List Outgoing
  | _, [] => []
  | server, act :: rest =>
      match server.step? act with
      | none => []
      | some after =>
          Outbox.gained (server.relay.outbox connection) (after.relay.outbox connection) ++
            accepted connection after rest

theorem accepted_append
    {first middle : Server}
    {earlier : List Act}
    (ran : first.run? earlier = some middle)
    (connection : ConnectionId)
    (later : List Act) :
    accepted connection first (earlier ++ later) =
      accepted connection first earlier ++ accepted connection middle later := by
  induction earlier generalizing first with
  | nil =>
      cases ran
      rfl
  | cons act rest inductionHypothesis =>
      cases stepped : first.step? act with
      | none =>
          simp [run?, stepped] at ran
      | some after =>
          simp only [run?, stepped] at ran
          simp only [List.cons_append, accepted, stepped, inductionHypothesis ran,
            List.append_assoc]

theorem accepted_concat
    {first server after : Server}
    {acts : List Act}
    {act : Act}
    (ran : first.run? acts = some server)
    (stepped : server.step? act = some after)
    (connection : ConnectionId) :
    accepted connection first (acts ++ [act]) =
      accepted connection first acts ++
        Outbox.gained (server.relay.outbox connection) (after.relay.outbox connection) := by
  rw [accepted_append ran]
  simp [accepted, stepped]

/-- What is queued is the end of what was accepted. -/
theorem items_suffix_accepted
    {settings : Settings}
    {server : Server}
    {acts : List Act}
    (ran : (start settings).run? acts = some server)
    (connection : ConnectionId) :
    (server.relay.outbox connection).items <:+
      accepted connection (start settings) acts := by
  refine run_induction
    (motive := fun acts server =>
      (server.relay.outbox connection).items <:+
        accepted connection (start settings) acts)
    (List.suffix_refl _) ?_ ran
  intro acts server act after ran held stepped
  rw [accepted_concat ran stepped]
  rcases items_of_step? stepped connection with grown | ⟨nothing, taken⟩
  · obtain ⟨gone, whole⟩ := held
    exact ⟨gone, by rw [grown, ← List.append_assoc, whole]⟩
  · rw [nothing, List.append_nil]
    exact taken.trans held

end Server

end SignalRelay
