import SignalRelay.Proofs.Queues

namespace SignalRelay

/-!
# Where messages go

A message goes to the connection of the most recent handshake that was given its
destination.  A connection that is superseded, refused, closed, or whose session has ended is
retired for good: it takes no message again, whatever happens later.
-/

open List

/-- Whether a handshake was refused for its parameters, its key, or for want of room. -/
def Meeting.isRejection (meeting : Meeting) : Bool :=
  match meeting.outcome with
  | .rejected _ => true
  | _ => false

namespace Server

/-- Closing was asked for on a connection: its session ended, the grace of its notice was
over, or it was told that it is rejected. -/
def HasClosed (server : Server) (connection : ConnectionId) : Prop :=
  connection ∈ server.endedConnections ∨
    connection ∈ server.expiredConnections ∨
    connection ∈ server.greetedConnections ∧
      ∃ meeting ∈ server.meetings,
        meeting.connection = connection ∧ meeting.isRejection = true

/-- Why no message is for a connection any more. -/
inductive Retired (server : Server) (connection : ConnectionId) : Prop where
  /-- The id of its handshake was given to another connection by a later one. -/
  | superseded
      {meeting later : Meeting}
      (ordered : [meeting, later] <+ server.meetings)
      (own : meeting.connection = connection)
      (sameId : later.parameters.id = meeting.parameters.id)
      (reconnection : later.isReconnection = true)
  /-- Its handshake was rejected, or the id was taken. -/
  | refused
      {meeting : Meeting}
      (member : meeting ∈ server.meetings)
      (own : meeting.connection = connection)
      (refusal : meeting.isRejection = true ∨ meeting.outcome = .idTaken)
  | ended
      (ended : connection ∈ server.endedConnections)
  | closed
      (closed : server.HasClosed connection)

/-! ## What has happened stays so -/

theorem HasClosed.grow
    {server later : Server}
    {connection : ConnectionId}
    (closed : server.HasClosed connection)
    (grown : server.history <+: later.history) :
    later.HasClosed connection := by
  rcases closed with ended | expired | ⟨greeted, meeting, member, own, rejection⟩
  · exact .inl ((grown.sublist.filterMap _).mem ended)
  · exact .inr (.inl ((grown.sublist.filterMap _).mem expired))
  · exact .inr (.inr ⟨(grown.sublist.filterMap _).mem greeted, meeting,
      (grown.sublist.filterMap _).mem member, own, rejection⟩)

theorem Retired.grow
    {server later : Server}
    {connection : ConnectionId}
    (retired : Retired server connection)
    (grown : server.history <+: later.history) :
    Retired later connection := by
  have meetings : server.meetings <+ later.meetings := grown.sublist.filterMap _
  cases retired with
  | superseded ordered own sameId reconnection =>
      exact .superseded (ordered.trans meetings) own sameId reconnection
  | refused member own refusal =>
      exact .refused (meetings.mem member) own refusal
  | ended hasEnded =>
      exact .ended ((grown.sublist.filterMap _).mem hasEnded)
  | closed hasClosed =>
      exact .closed (hasClosed.grow grown)

/-! ## Who takes messages -/

variable {settings : Settings} {server : Server}

/-- Only a connection that there is was told how its handshake ended. -/
theorem meeting_of_greeted
    (reachable : Reachable settings server) :
    ∀ connection ∈ server.greetedConnections,
      ∃ meeting ∈ server.meetings, meeting.connection = connection := by
  refine reachable.induction
    (motive := fun server =>
      ∀ connection ∈ server.greetedConnections,
        ∃ meeting ∈ server.meetings, meeting.connection = connection)
    (fun _ member => (List.not_mem_nil member).elim) ?_
  intro server act after _ held stepped connection member
  have kept := (meetings_of_step? stepped).subset
  rw [greetedConnections_of_step? stepped] at member
  rcases List.mem_append.mp member with before | now
  · obtain ⟨meeting, met, own⟩ := held connection before
    exact ⟨meeting, kept met, own⟩
  · cases act with
    | greet greeted =>
        cases List.mem_singleton.mp now
        obtain ⟨meeting, ungreeted, -⟩ := Option.map_eq_some_iff.mp stepped
        obtain ⟨met, own, -⟩ := of_ungreeted? ungreeted
        exact ⟨meeting, kept met, own⟩
    | dial | expire | frame | request | finish | write | abandon =>
        cases now

/-- The grace of a connection is over only where it was told that its id is taken. -/
theorem idTaken_of_expired
    (reachable : Reachable settings server) :
    ∀ connection ∈ server.expiredConnections,
      connection ∈ server.greetedConnections ∧
        ∃ meeting ∈ server.meetings,
          meeting.connection = connection ∧ meeting.outcome = .idTaken := by
  refine reachable.induction
    (motive := fun server =>
      ∀ connection ∈ server.expiredConnections,
        connection ∈ server.greetedConnections ∧
          ∃ meeting ∈ server.meetings,
            meeting.connection = connection ∧ meeting.outcome = .idTaken)
    (fun _ member => (List.not_mem_nil member).elim) ?_
  intro server act after _ held stepped connection member
  have kept := (meetings_of_step? stepped).subset
  rw [greetedConnections_of_step? stepped]
  rw [expiredConnections_of_step? stepped] at member
  rcases List.mem_append.mp member with before | now
  · obtain ⟨greeted, meeting, met, own⟩ := held connection before
    exact ⟨List.mem_append_left _ greeted, meeting, kept met, own⟩
  · cases act with
    | expire expired =>
        cases List.mem_singleton.mp now
        simp only [step?, Option.ite_none_right_eq_some] at stepped
        obtain ⟨⟨meeting, met, own⟩, greeted, -⟩ := of_awaitsExpiry stepped.1
        exact ⟨List.mem_append_left _ greeted, meeting, kept met, own⟩
    | dial | greet | frame | request | finish | write | abandon =>
        cases now

/-- Only the session of a client can have ended. -/
theorem client_of_ended
    (reachable : Reachable settings server) :
    ∀ connection ∈ server.endedConnections,
      ∃ meeting ∈ server.meetings,
        meeting.connection = connection ∧
          ∃ client, meeting.outcome.client? = some client := by
  refine reachable.induction
    (motive := fun server =>
      ∀ connection ∈ server.endedConnections,
        ∃ meeting ∈ server.meetings,
          meeting.connection = connection ∧
            ∃ client, meeting.outcome.client? = some client)
    (fun _ member => (List.not_mem_nil member).elim) ?_
  intro server act after _ held stepped connection member
  have kept := (meetings_of_step? stepped).subset
  have before (ended : connection ∈ server.endedConnections) :
      ∃ meeting ∈ after.meetings,
        meeting.connection = connection ∧
          ∃ client, meeting.outcome.client? = some client := by
    obtain ⟨meeting, met, own⟩ := held connection ended
    exact ⟨meeting, kept met, own⟩
  cases stepped_of_step? stepped with
  | dialed address parameters =>
      exact before (by simpa [dial, Happening.ended?] using member)
  | quiet books meetings ended =>
      exact before (ended ▸ member)
  | finished running =>
      simp only [finish, endedConnections_advance, Happening.ended?, Option.toList_some,
        List.mem_append, List.mem_singleton] at member
      rcases member with ended | rfl
      · exact before ended
      · obtain ⟨-, -, meeting, met, own, given⟩ := of_session? running
        exact ⟨meeting, kept met, own.trans (of_session? running).1.symm, _, given⟩

/-- Where a closing is queued or asked for, closing was asked for on the connection. -/
theorem hasClosed_of_closing
    (reachable : Reachable settings server) :
    ∀ connection,
      (server.relay.outbox connection).HoldsClosing →
      server.HasClosed connection := by
  refine reachable.induction
    (motive := fun server =>
      ∀ connection,
        (server.relay.outbox connection).HoldsClosing →
        server.HasClosed connection)
    ?_ ?_
  · rintro connection (queued | requested)
    · cases queued
    · cases requested
  intro server act after _ held stepped connection holds
  obtain ⟨happening, grown, -⟩ := history_of_step? stepped
  have before (held' : (server.relay.outbox connection).HoldsClosing) :
      after.HasClosed connection :=
    (held connection held').grow (grown ▸ List.prefix_append _ _)
  have step := outboxStep_of_step? stepped connection
  generalize after.relay.outbox connection = outbox at step holds
  cases step with
  | kept elsewhere =>
      exact before holds
  | opened fresh =>
      rcases holds with queued | requested
      · cases queued
      · cases requested
  | relayed relays reaches =>
      exact before (by simpa [Outbox.HoldsClosing, Outbox.push] using holds)
  | greeted ungreeted =>
      rcases Outbox.holdsClosing_of_greeted holds with held' | ⟨code, rejected⟩
      · exact before held'
      · obtain ⟨met, own, -⟩ := of_ungreeted? ungreeted
        refine .inr (.inr ⟨?_, _, (meetings_of_step? stepped).subset met, own, ?_⟩)
        · rw [greetedConnections_of_step? stepped]
          exact List.mem_append_right _ List.mem_cons_self
        · rw [Meeting.isRejection, rejected]
  | expired awaits =>
      refine .inr (.inl ?_)
      rw [expiredConnections_of_step? stepped]
      exact List.mem_append_right _ List.mem_cons_self
  | finished running =>
      refine .inl ?_
      obtain ⟨session, found, rfl⟩ := Option.map_eq_some_iff.mp stepped
      simp [(of_session? found).1]
  | written writing =>
      obtain ⟨-, -, taken⟩ := of_writing? writing
      exact before (Outbox.holdsClosing_of_next? taken holds)
  | abandoned =>
      rcases holds with queued | requested
      · cases queued
      · exact before (.inr requested)

namespace Coherent

theorem le_latest
    (coherent : Coherent server)
    {id : String}
    {meeting latest : Meeting}
    (success : meeting ∈ server.successes id)
    (newest : server.latest? id = some latest) :
    meeting.connection ≤ latest.connection := by
  have ordered := coherent.successes_ordered id
  obtain ⟨earlier, split⟩ := List.getLast?_eq_some_iff.mp newest
  rw [split] at success ordered
  rcases List.mem_append.mp success with before | isLatest
  · exact Nat.le_of_lt
      ((List.pairwise_append.mp ordered).2.2 meeting before latest (by simp))
  · exact Nat.le_of_eq (congrArg Meeting.connection (List.mem_singleton.mp isLatest))

/-- A message reaches the connection of the latest success for its destination, whose session
has not ended. -/
theorem latest_of_reaches
    (coherent : Coherent server)
    {message : Message}
    {target : ConnectionId}
    (reaches : server.relay.Reaches message target) :
    ∃ id latest,
      message.destination = some id ∧
        server.latest? id = some latest ∧
        latest.connection = target ∧
        target ∉ server.endedConnections := by
  obtain ⟨id, reference, client, destination, -, found, known, bound, -⟩ := reaches
  obtain ⟨holder, _, _, _, latest, tenure⟩ := coherent.held id reference found
  rw [tenure.known] at known
  cases known
  rw [tenure.bound] at bound
  cases bound
  exact ⟨id, latest, destination, tenure.newest, rfl, tenure.running⟩

/-- While the session of the latest success for an id runs, the id is registered and bound to
the connection of that success. -/
theorem reaches_latest
    (coherent : Coherent server)
    {message : Message}
    {id : String}
    {latest : Meeting}
    (recipient : message.recipient? = some id)
    (newest : server.latest? id = some latest)
    (running : latest.connection ∉ server.endedConnections)
    (accepts : (server.relay.outbox latest.connection).Accepts) :
    server.relay.Reaches message latest.connection := by
  obtain ⟨destination, nonempty⟩ := Option.filter_eq_some_iff.mp recipient
  cases found : server.relay.directory.find? id with
  | none =>
      exact (running (coherent.free id found latest newest)).elim
  | some reference =>
      obtain ⟨client, _, _, _, other, tenure⟩ := coherent.held id reference found
      cases newest.symm.trans tenure.newest
      exact ⟨id, reference, client, destination, by simpa using nonempty, found,
        tenure.known, tenure.bound, accepts⟩

/-- Nobody reconnects under an id after the latest success for it. -/
theorem no_reconnection_after_latest
    (coherent : Coherent server)
    {id : String}
    {latest later : Meeting}
    (newest : server.latest? id = some latest)
    (presents : later.parameters.id = some id)
    (reconnection : later.isReconnection = true) :
    ¬[latest, later] <+ server.meetings := by
  intro ordered
  have given : ∃ reference, later.outcome.client? = some reference := by
    unfold Meeting.isReconnection at reconnection
    split at reconnection
    · next reference outcome => exact ⟨reference, by rw [outcome]; rfl⟩
    · cases reconnection
  have success : later ∈ server.successes id :=
    mem_successes.mpr ⟨ordered.mem (by simp), presents, given⟩
  have cameLater : latest.connection < later.connection := by
    simpa using coherent.meetings_ordered.sublist ordered
  exact Nat.not_lt.mpr (coherent.le_latest success newest) cameLater

end Coherent

/-- The connection that an id was given to last is not retired while its session runs. -/
theorem not_retired_of_latest
    (reachable : Reachable settings server)
    {id : String}
    {latest : Meeting}
    (newest : server.latest? id = some latest)
    (running : latest.connection ∉ server.endedConnections) :
    ¬Retired server latest.connection := by
  have coherent := Coherent.of_reachable reachable
  have success := mem_of_latest? newest
  obtain ⟨latestMet, presented, reference, given⟩ := mem_successes.mp success
  have unrefused : ∀ meeting ∈ server.meetings,
      meeting.connection = latest.connection →
      meeting.isRejection = false ∧ meeting.outcome ≠ .idTaken := by
    intro meeting met own
    rw [coherent.meeting_unique met latestMet own]
    unfold Meeting.isRejection
    cases outcome : latest.outcome with
    | registered client | reconnected client => exact ⟨rfl, fun taken => by cases taken⟩
    | rejected code | idTaken =>
        rw [outcome] at given
        cases given
  intro retired
  cases retired with
  | superseded ordered own sameId reconnection =>
      have same := coherent.meeting_unique (ordered.mem (by simp)) latestMet own
      subst same
      exact coherent.no_reconnection_after_latest newest (sameId.trans presented) reconnection
        ordered
  | refused member own refusal =>
      obtain ⟨notRejected, notTaken⟩ := unrefused _ member own
      rcases refusal with rejected | taken
      · rw [notRejected] at rejected
        cases rejected
      · exact notTaken taken
  | ended hasEnded =>
      exact running hasEnded
  | closed hasClosed =>
      rcases hasClosed with hasEnded | hasExpired | ⟨-, meeting, member, own, rejected⟩
      · exact running hasEnded
      · obtain ⟨-, meeting, member, own, taken⟩ := idTaken_of_expired reachable _ hasExpired
        exact (unrefused meeting member own).2 taken
      · rw [(unrefused meeting member own).1] at rejected
        cases rejected

/--
Messages go to where their destination is now, and only there.  A connection that is retired
takes no message that an act of any later moment relays.  A connection that takes a message is
the one of the most recent handshake that was given the destination of the message.  That one
takes every message for it that is relayed, while its session runs and its queue accepts.
-/
theorem relayed_to_latest
    (reachable : Reachable settings server)
    {acts : List Act}
    {later after : Server}
    (ran : server.run? acts = some later)
    {act : Act}
    (relaying : act.isRelaying = true)
    (stepped : later.step? act = some after) :
    (∀ connection,
        Retired server connection →
        after.relay.outbox connection = later.relay.outbox connection) ∧
      (∀ target,
        after.relay.outbox target ≠ later.relay.outbox target →
        ∃ message id latest,
          later.Relays act message ∧
            message.destination = some id ∧
            later.latest? id = some latest ∧
            latest.connection = target ∧
            after.relay.outbox target =
              (later.relay.outbox target).push (.text message.toText)) ∧
      ∀ message id latest,
        later.Relays act message →
        message.recipient? = some id →
        later.latest? id = some latest →
        latest.connection ∉ later.endedConnections →
        (later.relay.outbox latest.connection).Accepts →
        after.relay.outbox latest.connection =
          (later.relay.outbox latest.connection).push (.text message.toText) := by
  have reachableLater := reachable.run ran
  have coherent := Coherent.of_reachable reachableLater
  refine ⟨?_, ?_, ?_⟩
  · intro connection retired
    rcases outbox_of_relaying stepped relaying connection with
        same | ⟨message, -, reaches, -⟩
    · exact same
    · obtain ⟨id, latest, -, newest, rfl, running⟩ := coherent.latest_of_reaches reaches
      exact (not_retired_of_latest reachableLater newest running
        (retired.grow (history_of_run? ran))).elim
  · intro target changed
    rcases outbox_of_relaying stepped relaying target with
        same | ⟨message, relays, reaches, queued⟩
    · exact (changed same).elim
    · obtain ⟨id, latest, destination, newest, own, -⟩ := coherent.latest_of_reaches reaches
      exact ⟨message, id, latest, relays, destination, newest, own, queued⟩
  · intro message id latest relays recipient newest running accepts
    exact outbox_of_relays stepped relays
      (coherent.reaches_latest recipient newest running accepts)

/-- After a reconnection, a message for the id goes to the new connection and not to the old
one, which its session still reads. -/
theorem relayed_to_latest_after_reconnection :
    ∃ server later after latest,
      (start {}).run?
          [.dial none ⟨some "a", some "t", some "peerjs"⟩,
            .dial none ⟨some "a", some "t", some "peerjs"⟩] = some server ∧
        server.session? 0 = some ⟨0, 0, 0⟩ ∧
        server.run? [.dial none ⟨some "b", some "t", some "peerjs"⟩] = some later ∧
        later.step?
            (.frame 2 (Utf8.encode "\x7b\"type\":\"OFFER\",\"dst\":\"a\"\x7d")) =
          some after ∧
        after.relay.outbox 0 = later.relay.outbox 0 ∧
        later.latest? "a" = some latest ∧
        latest.connection = 1 ∧
        (after.relay.outbox 1).items =
          [.text "\x7b\"type\":\"OFFER\",\"src\":\"b\",\"dst\":\"a\"\x7d"] := by
  obtain ⟨retiredKept, delivered, -⟩ :=
    @relayed_to_latest {} _
      ⟨[.dial none ⟨some "a", some "t", some "peerjs"⟩,
        .dial none ⟨some "a", some "t", some "peerjs"⟩], rfl⟩
      [.dial none ⟨some "b", some "t", some "peerjs"⟩] _ _ rfl
      (.frame 2 (Utf8.encode "\x7b\"type\":\"OFFER\",\"dst\":\"a\"\x7d")) rfl rfl
  obtain ⟨message, id, latest, relays, destination, newest, own, -⟩ :=
    delivered 1 (by decide)
  refine ⟨_, _, _, latest, rfl, rfl, rfl, rfl, retiredKept 0 ?_, ?_, own, rfl⟩
  · exact @Retired.superseded _ 0
      ⟨0, ⟨some "a", some "t", some "peerjs"⟩, .registered 0⟩
      ⟨1, ⟨some "a", some "t", some "peerjs"⟩, .reconnected 0⟩
      (List.Sublist.refl _) rfl rfl rfl
  · cases relays with
    | frame running read unreserved =>
        cases read
        cases destination
        exact newest

end Server

end SignalRelay
