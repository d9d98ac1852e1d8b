import SignalRelay.Proofs.Recipient
import SignalRelay.Proofs.Request

namespace SignalRelay

/-!
# What the relay says itself

A connection is told by the relay how its own handshake ended, once at most.  Whatever else
its queue accepts was said by clients, and clients cannot say what only the relay may.  A
connection that is refused accepts the notice of that and then a closing, and nothing else.
-/

open List

/-- A text that a client may have sent: the encoding of a message that is not reserved. -/
def Unreserved (text : String) : Prop :=
  ∃ message : Message,
    message.toText = text ∧ message.kind.text ∉ MessageKind.reservedTexts

/-- How a notice of a kind with an explanation is written. -/
def noticeText (kind explanation : String) : String :=
  "\x7b\"type\":\"" ++ kind ++ "\",\"payload\":\x7b\"msg\":\"" ++ explanation ++ "\"\x7d\x7d"

/-- The text of the notice with which a handshake is refused. -/
inductive RefusedWith : HandshakeOutcome → String → Prop where
  | invalidParameters :
      RefusedWith (.rejected .invalidParameters)
        (noticeText "ERROR" "No id, token, or key supplied to websocket server")
  | invalidKey :
      RefusedWith (.rejected .invalidKey) (noticeText "ERROR" "Invalid key provided")
  | limitExceeded :
      RefusedWith (.rejected .limitExceeded)
        (noticeText "ERROR" "Server has reached its concurrent user limit")
  | idTaken :
      RefusedWith .idTaken (noticeText "ID-TAKEN" "ID is taken")

/-- What a connection may be told, after a handshake that ended in some way. -/
inductive Notified : HandshakeOutcome → List String → Prop where
  | silence
      {outcome : HandshakeOutcome} :
      Notified outcome []
  | registered
      {client : ClientRef} :
      Notified (.registered client) ["\x7b\"type\":\"OPEN\"\x7d"]
  | refused
      {outcome : HandshakeOutcome}
      {notice : String}
      (refused : RefusedWith outcome notice) :
      Notified outcome [notice]

theorem RefusedWith.clientless
    {outcome : HandshakeOutcome}
    {notice : String}
    (refused : RefusedWith outcome notice) :
    outcome.client? = none := by
  cases refused <;> rfl

theorem notified_of_notice?
    {outcome : HandshakeOutcome}
    {message : Message}
    (due : Relay.notice? outcome = some message) :
    Notified outcome [message.toText] := by
  cases outcome with
  | registered client =>
      cases due
      exact .registered
  | reconnected client =>
      cases due
  | rejected code =>
      cases due
      cases code with
      | invalidParameters => exact .refused .invalidParameters
      | invalidKey => exact .refused .invalidKey
      | limitExceeded => exact .refused .limitExceeded
  | idTaken =>
      cases due
      exact .refused .idTaken

/-- The kind of a message that a request asks for is one that requests may name. -/
theorem Relay.kind_of_requested
    {relay : Relay}
    {request : RelayRequest}
    {message : Message}
    (ordered : relay.requested request = .ok message) :
    MessageKind.ofRequest? request.kind = some message.kind := by
  unfold requested at ordered
  split at ordered
  · cases ordered
  split at ordered
  · cases ordered
  next kind named =>
    split at ordered
    · cases ordered
    split at ordered
    · cases ordered
    split at ordered
    · cases ordered
    · cases ordered
      exact named

namespace Outbox

theorem greeted_of_not_receiving
    {outbox : Outbox}
    (stopped : outbox.receiving = false)
    (outcome : HandshakeOutcome) :
    outbox.greeted outcome = outbox := by
  cases outbox
  cases stopped
  cases outcome <;> rfl

/-- In an empty queue there is room for the notice and the closing. -/
theorem greeted_of_empty
    {outbox : Outbox}
    (receiving : outbox.receiving = true)
    (empty : outbox.items = [])
    {meeting : Meeting}
    {notice : String}
    (refused : RefusedWith meeting.outcome notice) :
    outbox.greeted meeting.outcome =
      { outbox with
        items := .text notice :: if meeting.isRejection then [.close] else [] } := by
  obtain ⟨items, _, signal⟩ := outbox
  obtain ⟨connection, parameters, outcome⟩ := meeting
  cases receiving
  cases empty
  cases refused <;> rfl

end Outbox

namespace Server

/-- What acts relay is not reserved, whatever was read or asked for. -/
theorem Relays.unreserved
    {server : Server}
    {act : Act}
    {message : Message}
    (relays : server.Relays act message) :
    Unreserved message.toText := by
  refine ⟨message, rfl, ?_⟩
  cases relays with
  | frame running read unreserved =>
      exact unreserved
  | request ordered =>
      exact MessageKind.text_not_reserved_of_ofRequest? (Relay.kind_of_requested ordered)

/-! ## What is said -/

/-- The texts that the queue of a connection accepts while acts are done to a server. -/
def texts (connection : ConnectionId) (server : Server) (acts : List Act) : List String :=
  (accepted connection server acts).filterMap Outgoing.text?

/--
What is said to a connection in a run: what clients may say, and besides, if the connection
is told how its handshake ended, what fits that outcome.
-/
inductive Said
    (outcome : HandshakeOutcome)
    (connection : ConnectionId)
    (first : Server) :
    List Act → Prop where
  | untold
      {acts : List Act}
      (unreserved : ∀ text ∈ texts connection first acts, Unreserved text) :
      Said outcome connection first acts
  | told
      {earlier later : List Act}
      {middle greeted : Server}
      (ran : first.run? earlier = some middle)
      (stepped : middle.step? (.greet connection) = some greeted)
      (unreserved :
        ∀ text ∈ texts connection first earlier ++ texts connection greeted later,
          Unreserved text)
      (notified : Notified outcome (texts connection middle [.greet connection])) :
      Said outcome connection first (earlier ++ .greet connection :: later)

variable {settings : Settings} {first server after : Server} {acts : List Act} {act : Act}
variable {connection : ConnectionId}

theorem texts_concat
    (ran : first.run? acts = some server)
    (connection : ConnectionId)
    (act : Act) :
    texts connection first (acts ++ [act]) =
      texts connection first acts ++ texts connection server [act] := by
  rw [texts, accepted_append ran, List.filterMap_append]
  rfl

theorem texts_of_step?
    (stepped : server.step? act = some after)
    (connection : ConnectionId) :
    texts connection server [act] =
      (Outbox.gained (server.relay.outbox connection)
        (after.relay.outbox connection)).filterMap Outgoing.text? := by
  simp [texts, accepted, stepped]

/-- Unless an act tells a connection how its handshake ended, it says to the connection what
clients may say. -/
theorem unreserved_of_step?
    (stepped : server.step? act = some after)
    (other : act ≠ .greet connection) :
    ∀ text ∈ texts connection server [act], Unreserved text := by
  have step := outboxStep_of_step? stepped connection
  rw [texts_of_step? stepped]
  generalize after.relay.outbox connection = outbox at step ⊢
  have closing (before : Outbox) :
      (Outbox.gained before before.close).filterMap Outgoing.text? = [] := by
    rw [Outbox.gained_close]
    split <;> rfl
  have silent : ∀ text ∈ ([] : List String), Unreserved text :=
    fun _ member => (List.not_mem_nil member).elim
  cases step with
  | kept elsewhere =>
      rw [Outbox.gained_of_le (Nat.le_refl _)]
      exact silent
  | opened | abandoned =>
      rw [Outbox.gained_of_le (Nat.zero_le _)]
      exact silent
  | relayed relays reaches =>
      rw [Outbox.gained_of_append rfl]
      intro text member
      cases List.mem_singleton.mp member
      exact relays.unreserved
  | greeted ungreeted =>
      exact (other rfl).elim
  | expired | finished =>
      rw [closing]
      exact silent
  | written writing =>
      rw [Outbox.gained_of_le (suffix_of_writing? writing).length_le]
      exact silent

/-- A connection is told about its own handshake, and what fits the outcome. -/
theorem notified_of_greet
    (stepped : server.step? (.greet connection) = some after) :
    connection ∉ server.greetedConnections ∧
      ∃ meeting ∈ server.meetings,
        meeting.connection = connection ∧
          Notified meeting.outcome (texts connection server [.greet connection]) := by
  rw [texts_of_step? stepped]
  obtain ⟨meeting, ungreeted, rfl⟩ := Option.map_eq_some_iff.mp stepped
  obtain ⟨member, rfl, notGreeted⟩ := of_ungreeted? ungreeted
  refine ⟨notGreeted, meeting, member, rfl, ?_⟩
  change Notified _ ((Outbox.gained _
    ((server.relay.greet meeting.connection meeting.outcome).1.outbox
      meeting.connection)).filterMap Outgoing.text?)
  rw [Relay.outbox_greet_same]
  obtain ⟨told, closed, grown, noticed, closings⟩ := Outbox.items_greeted meeting.outcome
    (server.relay.outbox meeting.connection)
  have textless : closed.filterMap Outgoing.text? = [] := by
    rcases closings with rfl | rfl <;> rfl
  rw [Outbox.gained_of_append grown, List.filterMap_append, textless, List.append_nil]
  rcases noticed with rfl | ⟨notice, due, rfl⟩
  · exact .silence
  · exact notified_of_notice? due

/-- What is said later does not change what was said. -/
theorem Said.concat
    {outcome : HandshakeOutcome}
    (said : Said outcome connection first acts)
    (ran : first.run? acts = some server)
    (stepped : server.step? act = some after)
    (other : act ≠ .greet connection) :
    Said outcome connection first (acts ++ [act]) := by
  have more := unreserved_of_step? stepped other
  cases said with
  | untold unreserved =>
      refine .untold fun text member => ?_
      rw [texts_concat ran] at member
      exact (List.mem_append.mp member).elim (unreserved text) (more text)
  | @told earlier later middle greeted led greeting unreserved notified =>
      have followed : greeted.run? later = some server := by
        simpa [run?_append, led, run?, greeting] using ran
      rw [List.append_assoc, List.cons_append]
      refine .told led greeting (fun text member => ?_) notified
      rw [texts_concat followed, ← List.append_assoc] at member
      exact (List.mem_append.mp member).elim (unreserved text) (more text)

/-- Every run says to a connection what clients may say, and what the connection is told about
its handshake. -/
theorem said_of_run?
    (ran : (start settings).run? acts = some server)
    (connection : ConnectionId) :
    (connection ∉ server.greetedConnections ∧
        ∀ text ∈ texts connection (start settings) acts, Unreserved text) ∨
      connection ∈ server.greetedConnections ∧
        ∃ meeting ∈ server.meetings,
          meeting.connection = connection ∧
            Said meeting.outcome connection (start settings) acts := by
  refine run_induction
    (motive := fun acts server =>
      (connection ∉ server.greetedConnections ∧
          ∀ text ∈ texts connection (start settings) acts, Unreserved text) ∨
        connection ∈ server.greetedConnections ∧
          ∃ meeting ∈ server.meetings,
            meeting.connection = connection ∧
              Said meeting.outcome connection (start settings) acts)
    (.inl ⟨List.not_mem_nil, fun _ member => (List.not_mem_nil member).elim⟩) ?_ ran
  intro acts server act after ran held stepped
  have kept := (meetings_of_step? stepped).subset
  rw [greetedConnections_of_step? stepped]
  -- A connection is told once: before that, all that was said may come from clients.
  by_cases greeting : act = .greet connection
  · subst greeting
    obtain ⟨notGreeted, meeting, member, own, notified⟩ := notified_of_greet stepped
    obtain ⟨-, unreserved⟩ := held.resolve_right fun greeted => notGreeted greeted.1
    exact .inr ⟨List.mem_append_right _ List.mem_cons_self, meeting, kept member, own,
      .told ran stepped (by simpa [texts, accepted] using unreserved) notified⟩
  · rcases held with ⟨notGreeted, unreserved⟩ | ⟨greeted, meeting, member, own, said⟩
    · left
      constructor
      · cases act with
        | greet greetedConnection =>
            simpa [notGreeted, Act.greeted?, eq_comm] using greeting
        | dial | expire | frame | request | finish | write | abandon =>
            simpa [Act.greeted?] using notGreeted
      · intro text member
        rw [texts_concat ran] at member
        exact (List.mem_append.mp member).elim (unreserved text)
          (unreserved_of_step? stepped greeting text)
    · exact .inr ⟨List.mem_append_left _ greeted, meeting, kept member, own,
        said.concat ran stepped greeting⟩

/-! ## Connections that there are not -/

/-- A handshake that an act adds is the one of the connection that the act opens. -/
theorem met_of_step?
    (stepped : server.step? act = some after)
    {meeting : Meeting}
    (member : meeting ∈ after.meetings) :
    meeting ∈ server.meetings ∨
      ∃ address parameters,
        after = server.dial address parameters ∧
          meeting.connection = server.nextConnection := by
  cases stepped_of_step? stepped with
  | dialed address parameters =>
      rcases mem_meetings_met.mp member with before | rfl
      · exact .inl before
      · exact .inr ⟨address, parameters, rfl, rfl⟩
  | finished running =>
      exact .inl (by simpa using member)
  | quiet books meetings ended =>
      exact .inl (meetings ▸ member)

/-- A run opens connections and never takes one back. -/
theorem nextConnection_of_step?
    (coherent : Coherent server)
    (stepped : server.step? act = some after) :
    server.nextConnection ≤ after.nextConnection := by
  rw [← coherent.length_meetings, ← (coherent.step stepped).length_meetings]
  exact (meetings_of_step? stepped).length_le

theorem accepted_of_unopened
    (ran : (start settings).run? acts = some server)
    {connection : ConnectionId}
    (unopened : server.nextConnection ≤ connection) :
    accepted connection (start settings) acts = [] := by
  revert unopened
  refine run_induction
    (motive := fun acts server =>
      server.nextConnection ≤ connection →
        accepted connection (start settings) acts = [])
    (fun _ => rfl) ?_ ran
  intro acts server act after ran held stepped unopened
  have grown := nextConnection_of_step? (.of_reachable ⟨acts, ran⟩) stepped
  rw [accepted_concat ran stepped, held (Nat.le_trans grown unopened), List.nil_append,
    Relay.outbox_of_le unopened]
  exact Outbox.gained_of_le (Nat.zero_le _)

/-- A writer writes to connections that were opened. -/
theorem opened_of_closed
    (reachable : Reachable settings server) :
    ∀ connection ∈ server.closedConnections, connection < server.nextConnection := by
  refine reachable.induction
    (motive := fun server =>
      ∀ connection ∈ server.closedConnections, connection < server.nextConnection)
    (fun _ member => (List.not_mem_nil member).elim) ?_
  intro server act after reachable held stepped connection closed
  apply Nat.lt_of_lt_of_le ?_ (nextConnection_of_step? (.of_reachable reachable) stepped)
  rcases closedConnections_of_step? stepped with same | ⟨writer, rest, -, writing, grown⟩
  · exact held connection (same ▸ closed)
  · rw [grown] at closed
    rcases List.mem_append.mp closed with before | now
    · exact held connection before
    · cases List.mem_singleton.mp now
      exact Relay.lt_of_receiving (of_writing? writing).1

/-! ## What refused connections accept -/

/-- Whether a connection is closed once it was told how its handshake ended: at once if it
is rejected, and else when the grace is over. -/
def closes (server : Server) (meeting : Meeting) : Bool :=
  meeting.isRejection || decide (meeting.connection ∈ server.expiredConnections)

/-- What is due to a refused connection: the notice when it is told, and the closing. -/
def due (server : Server) (meeting : Meeting) (notice : String) : List Outgoing :=
  if meeting.connection ∈ server.greetedConnections then
    .text notice :: if server.closes meeting then [.close] else []
  else
    []

/-- A refused connection has accepted what was due to it, unless its writer stopped. -/
structure Dismissed
    (server : Server)
    (meeting : Meeting)
    (notice : String)
    (items : List Outgoing) : Prop where
  within :
    items <+: server.due meeting notice
  whole :
    (server.relay.outbox meeting.connection).receiving = true →
      items = server.due meeting notice
  stopped :
    (server.relay.outbox meeting.connection).receiving = false →
      meeting.connection ∈ server.abandonedConnections

variable {meeting : Meeting} {notice : String}

theorem due_within
    (server : Server)
    (meeting : Meeting)
    (notice : String) :
    server.due meeting notice <+: [.text notice, .close] := by
  unfold due
  split
  · split
    · exact List.prefix_refl _
    · exact ⟨[.close], rfl⟩
  · exact List.nil_prefix

/-- What is due changes only by what is done about the connection itself. -/
theorem due_of_step?
    (stepped : server.step? act = some after)
    (ungreeted : act.greeted? ≠ some meeting.connection)
    (unexpired : act.expired? ≠ some meeting.connection) :
    after.due meeting notice = server.due meeting notice := by
  have greeted :
      meeting.connection ∈ after.greetedConnections ↔
        meeting.connection ∈ server.greetedConnections := by
    simp [greetedConnections_of_step? stepped, ungreeted]
  have closing : after.closes meeting = server.closes meeting := by
    simp [closes, expiredConnections_of_step? stepped, unexpired]
  unfold due
  rw [closing]
  exact ite_congr (propext greeted) (fun _ => rfl) (fun _ => rfl)

/-- Before a connection is told how its handshake ended nothing is due to it, and then the
notice, with the closing if it is rejected. -/
theorem due_of_greet
    (reachable : Reachable settings server)
    (stepped : server.step? (.greet meeting.connection) = some after)
    (notGreeted : meeting.connection ∉ server.greetedConnections) :
    server.due meeting notice = [] ∧
      after.due meeting notice =
        .text notice :: if meeting.isRejection then [.close] else [] := by
  have unexpired : meeting.connection ∉ server.expiredConnections :=
    fun expired => notGreeted (idTaken_of_expired reachable _ expired).1
  refine ⟨if_neg notGreeted, ?_⟩
  simp [due, closes, greetedConnections_of_step? stepped, expiredConnections_of_step? stepped,
    Act.greeted?, Act.expired?, unexpired]

/-- When its grace is over, the closing is due to a connection behind the notice. -/
theorem due_of_expire
    (stepped : server.step? (.expire meeting.connection) = some after)
    (greeted : meeting.connection ∈ server.greetedConnections)
    (unexpired : meeting.connection ∉ server.expiredConnections)
    (taken : meeting.outcome = .idTaken) :
    server.due meeting notice = [.text notice] ∧
      after.due meeting notice = [.text notice, .close] := by
  have notRejected : meeting.isRejection = false := by
    rw [Meeting.isRejection, taken]
  constructor
  · simp [due, closes, greeted, unexpired, notRejected]
  · simp [due, closes, greetedConnections_of_step? stepped,
      expiredConnections_of_step? stepped, Act.expired?, greeted]

/-- On a refused connection closing was asked for only where it was due. -/
theorem due_of_hasClosed
    (reachable : Reachable settings server)
    (member : meeting ∈ server.meetings)
    (refused : RefusedWith meeting.outcome notice)
    (closed : server.HasClosed meeting.connection) :
    server.due meeting notice = [.text notice, .close] := by
  have coherent := Coherent.of_reachable reachable
  have owed
      (greeted : meeting.connection ∈ server.greetedConnections)
      (closing : server.closes meeting = true) :
      server.due meeting notice = [.text notice, .close] := by
    rw [due, if_pos greeted, if_pos closing]
  rcases closed with ended | expired | ⟨greeted, other, met, own, rejected⟩
  · obtain ⟨other, met, own, client, given⟩ := client_of_ended reachable _ ended
    rw [coherent.meeting_unique met member own, refused.clientless] at given
    cases given
  · exact owed (idTaken_of_expired reachable _ expired).1 (by simp [closes, expired])
  · rw [coherent.meeting_unique met member own] at rejected
    exact owed greeted (by simp [closes, rejected])

namespace Dismissed

variable {items : List Outgoing}

/-- A closing is the last that is due. -/
theorem eq_of_close
    (dismissed : Dismissed server meeting notice items)
    (closing : .close ∈ items) :
    items = server.due meeting notice := by
  have owed := due_within server meeting notice
  have long : 2 ≤ items.length := by
    apply Nat.not_lt.mp
    intro short
    have untilNotice : items <+: [.text notice] :=
      List.prefix_of_prefix_length_le (dismissed.within.trans owed) ⟨[.close], rfl⟩
        (Nat.le_of_lt_succ short)
    cases List.mem_singleton.mp (untilNotice.subset closing)
  exact dismissed.within.eq_of_length_le (Nat.le_trans owed.length_le long)

/-- As long as the writer of the connection has not stopped, nothing is missing. -/
theorem complete
    (dismissed : Dismissed server meeting notice items)
    (running : meeting.connection ∉ server.abandonedConnections) :
    items = server.due meeting notice := by
  apply dismissed.whole
  cases receiving : (server.relay.outbox meeting.connection).receiving with
  | true => rfl
  | false => exact (running (dismissed.stopped receiving)).elim

/-- A connection whose writer is there has accepted all that is due. -/
theorem of_receiving
    (receiving : (after.relay.outbox meeting.connection).receiving = true)
    (all : items = after.due meeting notice) :
    Dismissed after meeting notice items where
  within := all ▸ List.prefix_refl _
  whole := fun _ => all
  stopped := by
    intro idle
    rw [receiving] at idle
    cases idle

/-- A connection whose writer is gone accepts no more, whatever becomes due. -/
theorem of_not_receiving
    (idle : (after.relay.outbox meeting.connection).receiving = false)
    (within : items <+: after.due meeting notice)
    (stopped : meeting.connection ∈ after.abandonedConnections) :
    Dismissed after meeting notice items where
  within := within
  whole := by
    intro receiving
    rw [idle] at receiving
    cases receiving
  stopped := fun _ => stopped

/-- A connection stays dismissed where its outbox and what is due to it are left alone. -/
theorem kept
    (dismissed : Dismissed server meeting notice items)
    (owed : after.due meeting notice = server.due meeting notice)
    (abandoned :
      meeting.connection ∈ server.abandonedConnections →
        meeting.connection ∈ after.abandonedConnections)
    (same :
      after.relay.outbox meeting.connection = server.relay.outbox meeting.connection) :
    Dismissed after meeting notice items where
  within := owed ▸ dismissed.within
  whole := by
    rw [same, owed]
    exact dismissed.whole
  stopped := by
    rw [same]
    exact fun idle => abandoned (dismissed.stopped idle)

/-- A connection that is told how its handshake ended accepts the notice, if its writer is
there. -/
theorem told
    (dismissed : Dismissed server meeting notice items)
    (queued : (server.relay.outbox meeting.connection).items <:+ items)
    (refused : RefusedWith meeting.outcome notice)
    (nothingDue : server.due meeting notice = [])
    (owed :
      after.due meeting notice =
        .text notice :: if meeting.isRejection then [.close] else [])
    (abandoned :
      meeting.connection ∈ server.abandonedConnections →
        meeting.connection ∈ after.abandonedConnections)
    (greeted :
      after.relay.outbox meeting.connection =
        (server.relay.outbox meeting.connection).greeted meeting.outcome) :
    Dismissed after meeting notice
      (items ++ Outbox.gained (server.relay.outbox meeting.connection)
        (after.relay.outbox meeting.connection)) := by
  cases receiving : (server.relay.outbox meeting.connection).receiving with
  | true =>
      have nothing : items = [] := List.prefix_nil.mp (nothingDue ▸ dismissed.within)
      rw [nothing] at queued ⊢
      have empty := List.suffix_nil.mp queued
      rw [Outbox.greeted_of_empty receiving empty refused] at greeted
      rw [List.nil_append, Outbox.gained, empty, greeted]
      exact .of_receiving (by rw [greeted, receiving]) owed.symm
  | false =>
      rw [Outbox.greeted_of_not_receiving receiving] at greeted
      rw [greeted, Outbox.gained_of_le (Nat.le_refl _), List.append_nil]
      have within : items <+: [] := nothingDue ▸ dismissed.within
      exact .of_not_receiving (by rw [greeted, receiving]) (within.trans List.nil_prefix)
        (abandoned (dismissed.stopped receiving))

/-- A connection that is closed behind its notice accepts the closing, if its writer is
there. -/
theorem shut
    (dismissed : Dismissed server meeting notice items)
    (queued : (server.relay.outbox meeting.connection).items <:+ items)
    (noticeDue : server.due meeting notice = [.text notice])
    (owed : after.due meeting notice = [.text notice, .close])
    (abandoned :
      meeting.connection ∈ server.abandonedConnections →
        meeting.connection ∈ after.abandonedConnections)
    (closed :
      after.relay.outbox meeting.connection =
        (server.relay.outbox meeting.connection).close) :
    Dismissed after meeting notice
      (items ++ Outbox.gained (server.relay.outbox meeting.connection)
        (after.relay.outbox meeting.connection)) := by
  cases receiving : (server.relay.outbox meeting.connection).receiving with
  | true =>
      have told := (dismissed.whole receiving).trans noticeDue
      rw [told] at queued ⊢
      have room : 1 < Outbox.capacity := by decide
      have accepts : (server.relay.outbox meeting.connection).Accepts :=
        ⟨receiving, Nat.lt_of_le_of_lt queued.length_le room⟩
      rw [closed, Outbox.gained_close, if_pos accepts]
      exact .of_receiving (by rw [closed, Outbox.receiving_close, receiving]) owed.symm
  | false =>
      rw [Outbox.close_of_not_receiving receiving] at closed
      rw [closed, Outbox.gained_of_le (Nat.le_refl _), List.append_nil]
      have within : items <+: after.due meeting notice := by
        rw [owed]
        exact dismissed.within.trans (due_within ..)
      exact .of_not_receiving (by rw [closed, receiving]) within
        (abandoned (dismissed.stopped receiving))

/-- Every act leaves a refused connection dismissed. -/
theorem step
    (ran : (start settings).run? acts = some server)
    (stepped : server.step? act = some after)
    (member : meeting ∈ server.meetings)
    (refused : RefusedWith meeting.outcome notice)
    (dismissed :
      Dismissed server meeting notice
        (accepted meeting.connection (start settings) acts)) :
    Dismissed after meeting notice
      (accepted meeting.connection (start settings) (acts ++ [act])) := by
  have reachable : Reachable settings server := ⟨acts, ran⟩
  have coherent := Coherent.of_reachable reachable
  -- Messages and ends of sessions need a client, and a refused handshake gave none.
  have clientless {other : Meeting}
      (met : other ∈ server.meetings)
      (own : other.connection = meeting.connection) :
      other.outcome.client? = none := by
    rw [coherent.meeting_unique met member own, refused.clientless]
  have abandonedOn
      (before : meeting.connection ∈ server.abandonedConnections) :
      meeting.connection ∈ after.abandonedConnections := by
    rw [abandonedConnections_of_step? stepped]
    exact List.mem_append_left _ before
  have queued := items_suffix_accepted ran meeting.connection
  have step := outboxStep_of_step? stepped meeting.connection
  rw [accepted_concat ran stepped]
  generalize accepted meeting.connection (start settings) acts = items at *
  generalize found : after.relay.outbox meeting.connection = outbox at step ⊢
  cases step with
  | kept elsewhere =>
      have owed : after.due meeting notice = server.due meeting notice :=
        due_of_step? stepped (Act.of_worksOn?_ne elsewhere).1 (Act.of_worksOn?_ne elsewhere).2
      rw [Outbox.gained_of_le (Nat.le_refl _), List.append_nil]
      exact dismissed.kept owed abandonedOn found
  | opened fresh =>
      exact (Nat.ne_of_lt (coherent.connection_lt member) fresh).elim
  | relayed relays reaches =>
      obtain ⟨id, latest, -, newest, own, -⟩ := coherent.latest_of_reaches reaches
      obtain ⟨met, -, reference, given⟩ := mem_successes.mp (mem_of_latest? newest)
      rw [clientless met own] at given
      cases given
  | greeted ungreeted =>
      obtain ⟨met, own, notGreeted⟩ := of_ungreeted? ungreeted
      cases coherent.meeting_unique met member own
      obtain ⟨nothingDue, owed⟩ := due_of_greet reachable stepped notGreeted
      rw [← found]
      exact dismissed.told queued refused nothingDue owed abandonedOn found
  | expired awaits =>
      obtain ⟨⟨other, met, own, taken⟩, greeted, unexpired⟩ := of_awaitsExpiry awaits
      cases coherent.meeting_unique met member own
      obtain ⟨noticeDue, owed⟩ := due_of_expire stepped greeted unexpired taken
      rw [← found]
      exact dismissed.shut queued noticeDue owed abandonedOn found
  | finished running =>
      obtain ⟨-, -, other, met, own, given⟩ := of_session? running
      rw [clientless met own] at given
      cases given
  | written writing =>
      have owed : after.due meeting notice = server.due meeting notice :=
        due_of_step? stepped (Option.some_ne_none _).symm (Option.some_ne_none _).symm
      rw [Outbox.gained_of_le (suffix_of_writing? writing).length_le, List.append_nil]
      obtain ⟨receiving, -, taken⟩ := of_writing? writing
      refine .of_receiving ?_ ((dismissed.whole receiving).trans owed.symm)
      rw [found, Outbox.receiving_of_next? taken, receiving]
  | abandoned =>
      have owed : after.due meeting notice = server.due meeting notice :=
        due_of_step? stepped (Option.some_ne_none _).symm (Option.some_ne_none _).symm
      rw [Outbox.gained_of_le (Nat.zero_le _), List.append_nil]
      refine .of_not_receiving (by rw [found]; rfl) (owed ▸ dismissed.within) ?_
      rw [abandonedConnections_of_step? stepped]
      exact List.mem_append_right _ List.mem_cons_self

theorem dialed
    (ran : (start settings).run? acts = some server)
    {address : Option SocketAddress}
    {parameters : HandshakeParameters}
    (stepped : server.step? act = some (server.dial address parameters))
    (own : meeting.connection = server.nextConnection) :
    Dismissed (server.dial address parameters) meeting notice
      (accepted meeting.connection (start settings) (acts ++ [act])) := by
  have reachable : Reachable settings server := ⟨acts, ran⟩
  have opened :
      (server.dial address parameters).relay.outbox meeting.connection = .empty := by
    rw [outbox_dial, if_pos own]
  have ungreeted :
      meeting.connection ∉ (server.dial address parameters).greetedConnections := by
    intro greeted
    have before : meeting.connection ∈ server.greetedConnections := by
      simpa [greetedConnections, dial, advance, Happening.greeted?] using greeted
    obtain ⟨other, met, same⟩ := meeting_of_greeted reachable _ before
    exact Nat.ne_of_lt ((Coherent.of_reachable reachable).connection_lt met) (same.trans own)
  have nothingDue : (server.dial address parameters).due meeting notice = [] :=
    if_neg ungreeted
  rw [accepted_concat ran stepped, accepted_of_unopened ran (Nat.le_of_eq own.symm), opened,
    List.nil_append, Outbox.gained_of_le (Nat.zero_le _)]
  exact .of_receiving (by rw [opened]; rfl) nothingDue.symm

/-- Every run leaves every refused connection dismissed. -/
theorem of_run?
    (ran : (start settings).run? acts = some server) :
    ∀ meeting ∈ server.meetings, ∀ notice,
      RefusedWith meeting.outcome notice →
      Dismissed server meeting notice
        (accepted meeting.connection (start settings) acts) := by
  refine run_induction
    (motive := fun acts server =>
      ∀ meeting ∈ server.meetings, ∀ notice,
        RefusedWith meeting.outcome notice →
        Dismissed server meeting notice
          (accepted meeting.connection (start settings) acts))
    (fun _ member => (List.not_mem_nil member).elim) ?_ ran
  intro acts server act after ran held stepped meeting member notice refused
  rcases met_of_step? stepped member with met | ⟨address, parameters, rfl, own⟩
  · exact (held meeting met notice refused).step ran stepped met refused
  · exact dialed ran stepped own

/-- A refused connection whose writer wrote a closing had accepted that. -/
theorem close_mem_of_closed
    (ran : (start settings).run? acts = some server) :
    ∀ meeting ∈ server.meetings, ∀ notice,
      RefusedWith meeting.outcome notice →
      meeting.connection ∈ server.closedConnections →
      .close ∈ accepted meeting.connection (start settings) acts := by
  refine run_induction
    (motive := fun acts server =>
      ∀ meeting ∈ server.meetings, ∀ notice,
        RefusedWith meeting.outcome notice →
        meeting.connection ∈ server.closedConnections →
        .close ∈ accepted meeting.connection (start settings) acts)
    (fun _ member => (List.not_mem_nil member).elim) ?_ ran
  intro acts server act after ran held stepped meeting member notice refused closed
  have reachable : Reachable settings server := ⟨acts, ran⟩
  rw [accepted_concat ran stepped]
  apply List.mem_append_left
  rcases met_of_step? stepped member with met | ⟨address, parameters, rfl, own⟩
  · rcases closedConnections_of_step? stepped with
        same | ⟨connection, rest, rfl, writing, grown⟩
    · exact held meeting met notice refused (same ▸ closed)
    · rw [grown] at closed
      rcases List.mem_append.mp closed with before | now
      · exact held meeting met notice refused before
      · -- The writer takes the closing now, and it was due if it was there to be taken.
        cases List.mem_singleton.mp now
        obtain ⟨receiving, -, taken⟩ := of_writing? writing
        have holds := Outbox.holdsClosing_of_next?_close taken
        have owed :=
          due_of_hasClosed reachable met refused (hasClosed_of_closing reachable _ holds)
        rw [((of_run? ran meeting met notice refused).whole receiving).trans owed]
        exact List.mem_cons_of_mem _ List.mem_cons_self
  · have before : meeting.connection ∈ server.closedConnections := by
      simpa [closedConnections, dial, advance, Happening.closed?] using closed
    exact (Nat.ne_of_lt (opened_of_closed reachable _ before) own).elim

end Dismissed

/-! ## Only the relay speaks for the relay -/

/--
What the queues accept in a run, whatever clients send and ask for.  A connection that was
not opened accepts nothing.  What is said to a connection is what clients may say, but for the
one notice that it is given when it is told how its own handshake ended: OPEN if it was
registered, ERROR with the code if it was rejected, ID-TAKEN if the id was taken, and nothing if
it was reconnected.  A connection that is refused accepts its notice and then a closing, and
nothing else; as long as its writer has not stopped, or if it has written the closing, it
accepts all that is due.
-/
theorem accepted_in_run
    (ran : (start settings).run? acts = some server) :
    (∀ connection,
        (∀ meeting ∈ server.meetings, meeting.connection ≠ connection) →
        accepted connection (start settings) acts = []) ∧
      ∀ meeting ∈ server.meetings,
        Said meeting.outcome meeting.connection (start settings) acts ∧
          ∀ notice,
            RefusedWith meeting.outcome notice →
            accepted meeting.connection (start settings) acts <+:
                [.text notice, .close] ∧
              (meeting.connection ∉ server.abandonedConnections ∨
                  meeting.connection ∈ server.closedConnections →
                accepted meeting.connection (start settings) acts =
                  server.due meeting notice) := by
  have coherent := Coherent.of_reachable ⟨acts, ran⟩
  constructor
  · intro connection unmet
    apply accepted_of_unopened ran
    apply Nat.not_lt.mp
    intro opened
    obtain ⟨meeting, member, own⟩ := coherent.exists_meeting opened
    exact unmet meeting member own
  intro meeting member
  constructor
  · rcases said_of_run? ran meeting.connection with
        ⟨-, unreserved⟩ | ⟨-, other, met, own, said⟩
    · exact .untold unreserved
    · exact coherent.meeting_unique met member own ▸ said
  · intro notice refused
    have dismissed := Dismissed.of_run? ran meeting member notice refused
    refine ⟨dismissed.within.trans (due_within ..), ?_⟩
    rintro (running | closed)
    · exact dismissed.complete running
    · exact dismissed.eq_of_close
        (Dismissed.close_mem_of_closed ran meeting member notice refused closed)

/-- One that is registered is told so.  One whose id is taken and one that does not know the key
are told that and closed, whatever the client that has the id does meanwhile; that client cannot
even tell itself that it is registered. -/
theorem accepted_in_run_of_taken_id :
    ∃ acts server,
      acts =
          [.dial none ⟨some "a", some "t", some "peerjs"⟩,
            .dial none ⟨some "a", some "other", some "peerjs"⟩,
            .dial none ⟨some "b", some "t", some "wrong"⟩,
            .greet 0,
            .greet 1,
            .frame 0 (Utf8.encode "\x7b\"type\":\"OPEN\",\"dst\":\"a\"\x7d"),
            .greet 2,
            .expire 1,
            .write 2,
            .write 2,
            .abandon 2] ∧
        (start {}).run? acts = some server ∧
        Said (.registered 0) 0 (start {}) acts ∧
        accepted 0 (start {}) acts = [.text "\x7b\"type\":\"OPEN\"\x7d"] ∧
        accepted 1 (start {}) acts =
          [.text "\x7b\"type\":\"ID-TAKEN\",\"payload\":\x7b\"msg\":\"ID is taken\"\x7d\x7d",
            .close] ∧
        accepted 2 (start {}) acts =
          [.text
              "\x7b\"type\":\"ERROR\",\"payload\":\x7b\"msg\":\"Invalid key provided\"\x7d\x7d",
            .close] := by
  obtain ⟨-, met⟩ :=
    @accepted_in_run {} _
      [.dial none ⟨some "a", some "t", some "peerjs"⟩,
        .dial none ⟨some "a", some "other", some "peerjs"⟩,
        .dial none ⟨some "b", some "t", some "wrong"⟩,
        .greet 0,
        .greet 1,
        .frame 0 (Utf8.encode "\x7b\"type\":\"OPEN\",\"dst\":\"a\"\x7d"),
        .greet 2,
        .expire 1,
        .write 2,
        .write 2,
        .abandon 2] rfl
  have holder := met ⟨0, ⟨some "a", some "t", some "peerjs"⟩, .registered 0⟩ (by decide)
  have second := met ⟨1, ⟨some "a", some "other", some "peerjs"⟩, .idTaken⟩ (by decide)
  have third := met ⟨2, ⟨some "b", some "t", some "wrong"⟩, .rejected .invalidKey⟩ (by decide)
  exact ⟨_, _, rfl, rfl, holder.1, rfl, (second.2 _ .idTaken).2 (.inl (by decide)),
    (third.2 _ .invalidKey).2 (.inr (by decide))⟩

end Server

end SignalRelay
