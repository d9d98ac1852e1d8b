import SignalRelay.Proofs.Delivery

namespace SignalRelay

/-!
# Whose id it is

What the invariant of `Tenure` says about the directory and about the ids under which
sessions speak.
-/

namespace Server

variable {settings : Settings} {server : Server}

section Tenures

variable
  {id : String}
  {reference : ClientRef}
  {client : Client}
  {earlier since : List Meeting}
  {registration latest : Meeting}

/-- Every success during a tenure was given the client that holds the id. -/
theorem Tenure.given
    (tenure : Tenure server id reference client earlier registration since latest)
    {meeting : Meeting}
    (member : meeting ∈ registration :: since) :
    meeting.outcome.client? = some reference := by
  rcases List.mem_cons.mp member with same | later
  · rw [same, tenure.registered, HandshakeOutcome.client?]
  · rw [tenure.reconnected meeting later, HandshakeOutcome.client?]

/-- Whoever was given an id during a tenure presented the token of its client. -/
theorem Tenure.token
    (tenure : Tenure server id reference client earlier registration since latest)
    (coherent : Coherent server)
    {meeting : Meeting}
    (member : meeting ∈ registration :: since) :
    meeting.parameters.token = some client.token := by
  have success : meeting ∈ server.successes id := by
    rw [tenure.successes]
    exact List.mem_append_right _ member
  obtain ⟨holder, known, -, token⟩ :=
    coherent.given meeting (mem_successes.mp success).1 reference (tenure.given member)
  rw [tenure.known] at known
  cases known
  exact token

/-- The registration that began a tenure is the last one of the id. -/
theorem Tenure.lastRegistration
    (tenure : Tenure server id reference client earlier registration since latest) :
    server.lastRegistration? id = some registration := by
  have noneSince : since.filter (·.isRegistration) = [] := by
    rw [List.filter_eq_nil_iff]
    intro meeting member
    simp [Meeting.isRegistration, tenure.reconnected meeting member]
  have isRegistration : registration.isRegistration = true := by
    simp [Meeting.isRegistration, tenure.registered]
  simp [lastRegistration?, tenure.successes, isRegistration, noneSince]

/-- A success that came no earlier than the last registration came during the tenure. -/
theorem Tenure.mem_of_not_lt
    (tenure : Tenure server id reference client earlier registration since latest)
    (coherent : Coherent server)
    {meeting : Meeting}
    (success : meeting ∈ server.successes id)
    (notBefore : ¬ meeting.connection < registration.connection) :
    meeting ∈ registration :: since := by
  have ordered := coherent.successes_ordered id
  rw [tenure.successes] at success ordered
  rcases List.mem_append.mp success with before | during
  · have earlierFirst := (List.pairwise_append.mp ordered).2.2
    exact (notBefore (earlierFirst meeting before registration (by simp))).elim
  · exact during

end Tenures

/-- A session whose connection is not the one of the latest success for its client's id
ends without a trace in the directory and in the clients. -/
theorem finish_superseded
    (coherent : Coherent server)
    {connection : ConnectionId}
    {session : Session}
    (running : server.session? connection = some session)
    (superseded :
      ∀ latest,
        server.latest? (server.relay.clientId session.client) = some latest →
        latest.connection ≠ connection) :
    (server.finish session).relay.directory = server.relay.directory ∧
      (server.finish session).relay.clients = server.relay.clients := by
  have sameConnection := (of_session? running).1
  have unbound :
      ¬ (server.relay.boundEntry? (server.relay.clientId session.client)
          session.connection).isSome := by
    intro isBound
    obtain ⟨reference, found, bound⟩ := (Relay.boundEntry?_isSome_iff ..).mp isBound
    obtain ⟨client, _, _, _, latest, tenure⟩ := coherent.held _ reference found
    rw [Relay.connectionOf_of_client? tenure.known, tenure.bound] at bound
    exact superseded latest tenure.newest
      ((Option.some.inj bound).trans sameConnection)
  have books := Relay.endSession_of_not_bound unbound
  exact ⟨books.directory, books.clients⟩

/--
The directory is a function of what has happened.  An id is registered exactly while the
session of the most recent handshake that was given the id has not ended.  Then its client
is bound to the connection of that handshake, and its token is the one that was presented
by the last registration of the id and by every reconnection since.  The end of a session
that was superseded changes nothing.
-/
theorem directory_of_history
    (reachable : Reachable settings server)
    (id : String) :
    ((server.relay.directory.find? id).isSome ↔
      ∃ latest,
        server.latest? id = some latest ∧
          latest.connection ∉ server.endedConnections) ∧
      (∀ reference,
        server.relay.directory.find? id = some reference →
        ∃ client latest earlier registration since,
          server.relay.client? reference = some client ∧
            server.latest? id = some latest ∧
            client.connection = some latest.connection ∧
            server.successes id = earlier ++ registration :: since ∧
            registration.isRegistration = true ∧
            registration.parameters.token = some client.token ∧
            ∀ meeting ∈ since,
              meeting.isReconnection = true ∧
                meeting.parameters.token = some client.token) ∧
      ∀ connection session,
        server.session? connection = some session →
        server.relay.clientId session.client = id →
        (∀ latest, server.latest? id = some latest → latest.connection ≠ connection) →
        server.step? (.finish connection) = some (server.finish session) ∧
          (server.finish session).relay.directory = server.relay.directory ∧
          (server.finish session).relay.clients = server.relay.clients := by
  have coherent := Coherent.of_reachable reachable
  refine ⟨⟨?_, ?_⟩, ?_, ?_⟩
  · intro registered
    obtain ⟨reference, found⟩ := Option.isSome_iff_exists.mp registered
    obtain ⟨_, _, _, _, latest, tenure⟩ := coherent.held id reference found
    exact ⟨latest, tenure.newest, tenure.running⟩
  · rintro ⟨latest, newest, running⟩
    cases found : server.relay.directory.find? id with
    | none =>
        exact (running (coherent.free id found latest newest)).elim
    | some reference =>
        rfl
  · intro reference found
    obtain ⟨client, earlier, registration, since, latest, tenure⟩ :=
      coherent.held id reference found
    refine ⟨client, latest, earlier, registration, since, tenure.known, tenure.newest,
      tenure.bound, tenure.successes, ?_, tenure.token coherent (by simp), ?_⟩
    · simp [Meeting.isRegistration, tenure.registered]
    · intro meeting member
      refine ⟨?_, tenure.token coherent (List.mem_cons_of_mem _ member)⟩
      simp [Meeting.isReconnection, tenure.reconnected meeting member]
  · intro connection session running own superseded
    subst own
    exact ⟨by simp [step?, running], finish_superseded coherent running superseded⟩

/-- The end of a session that was superseded leaves the id with its new connection. -/
theorem directory_of_history_after_stale_end :
    ∃ server,
      (start {}).run?
          [.dial none ⟨some "a", some "t", some "peerjs"⟩,
            .dial none ⟨some "a", some "t", some "peerjs"⟩,
            .finish 0] = some server ∧
        (server.relay.directory.find? "a").isSome = true := by
  refine ⟨_, rfl, (@directory_of_history {} _ ⟨?acts, ?led⟩ "a").1.mpr ?_⟩
  case acts =>
    exact
      [.dial none ⟨some "a", some "t", some "peerjs"⟩,
        .dial none ⟨some "a", some "t", some "peerjs"⟩,
        .finish 0]
  case led => rfl
  exact ⟨_, rfl, by decide⟩

/--
A session may outlive the tenure of its client: superseded by a reconnection, it goes on
reading after the id was taken out of the directory and registered by somebody else.  A
frame of such a session is still stamped with the id.  The token that the session's
handshake presented is the one that the current holder of the id has, exactly unless the
last registration of the id came after that handshake and presented another token.
-/
theorem frame_speaks_for_holder_iff
    (reachable : Reachable settings server)
    {connection : ConnectionId}
    {session : Session}
    (running : server.session? connection = some session)
    {octets : Octets}
    {target : ConnectionId}
    (changed :
      (server.frame session octets).relay.outbox target ≠ server.relay.outbox target) :
    ∃ client meeting message,
      server.relay.client? session.client = some client ∧
        meeting ∈ server.meetings ∧
        meeting.connection = connection ∧
        Message.ofOctets octets = .ok message ∧
        (server.frame session octets).relay.outbox target =
          (server.relay.outbox target).push
            (.text (message.withSource client.id).toText) ∧
        ∀ reference holder,
          server.relay.directory.find? client.id = some reference →
          server.relay.client? reference = some holder →
          (meeting.parameters.token = some holder.token ↔
            ∀ registration,
              server.lastRegistration? client.id = some registration →
              meeting.connection < registration.connection →
              registration.parameters.token = meeting.parameters.token) := by
  have coherent := Coherent.of_reachable reachable
  obtain ⟨client, meeting, known, success, sameConnection, -, presented⟩ :=
    coherent.of_session? running
  have ownId := Relay.clientId_of_client? known
  cases read : Message.ofOctets octets with
  | error fault =>
      rw [(server.frame_of_error session read).1] at changed
      exact (changed rfl).elim
  | ok message =>
      have relays : server.relay.RelaysTo message target := by
        apply Classical.byContradiction
        intro unreached
        exact changed (outbox_frame_of_not_relaysTo read unreached)
      refine ⟨client, meeting, message, known, (mem_successes.mp success).1,
        sameConnection, rfl, ?_, ?_⟩
      · rw [← ownId]
        exact outbox_frame_of_relaysTo read relays
      · intro reference holder found knownHolder
        obtain ⟨_, earlier, registration, since, latest, tenure⟩ :=
          coherent.held client.id reference found
        have sameHolder := Option.some.inj (knownHolder.symm.trans tenure.known)
        subst sameHolder
        have registrationToken := tenure.token coherent List.mem_cons_self
        rw [tenure.lastRegistration]
        constructor
        · intro sameToken last isLast _
          cases isLast
          rw [registrationToken, sameToken]
        · intro unlessReclaimed
          by_cases later : meeting.connection < registration.connection
          · rw [← unlessReclaimed registration rfl later, registrationToken]
          · exact tenure.token coherent (tenure.mem_of_not_lt coherent success later)

/-- An id is registered, reconnected, given up, and registered under another token, while
the session on its first connection goes on. -/
def reclaiming : List Act :=
  [.dial none ⟨some "a", some "t1", some "peerjs"⟩, .greet 0,
    .dial none ⟨some "b", some "t", some "peerjs"⟩, .greet 1,
    .dial none ⟨some "a", some "t1", some "peerjs"⟩, .greet 2,
    .finish 2,
    .dial none ⟨some "a", some "t2", some "peerjs"⟩, .greet 3]

/-- What the first session then reads is queued under the id of the new holder. -/
theorem frame_speaks_for_holder_iff_after_reclaiming :
    ∃ server meeting reference holder,
      (start {}).run? reclaiming = some server ∧
        server.session? 0 = some ⟨0, 0, 0⟩ ∧
        meeting ∈ server.meetings ∧
        meeting.connection = 0 ∧
        ((server.frame ⟨0, 0, 0⟩
            (Utf8.encode "\x7b\"type\":\"OFFER\",\"dst\":\"b\"\x7d")).relay.outbox 1).items =
          (server.relay.outbox 1).items ++
            [.text "\x7b\"type\":\"OFFER\",\"src\":\"a\",\"dst\":\"b\"\x7d"] ∧
        server.relay.directory.find? "a" = some reference ∧
        server.relay.client? reference = some holder ∧
        meeting.parameters.token ≠ some holder.token := by
  obtain ⟨client, meeting, message, known, member, sameConnection, read, queued, same⟩ :=
    @frame_speaks_for_holder_iff {} _ ⟨reclaiming, rfl⟩ 0 ⟨0, 0, 0⟩ rfl
      (Utf8.encode "\x7b\"type\":\"OFFER\",\"dst\":\"b\"\x7d") 1 (by decide)
  cases known
  cases read
  have first : meeting = ⟨0, ⟨some "a", some "t1", some "peerjs"⟩, .registered 0⟩ :=
    (@Coherent.of_reachable {} _ ⟨reclaiming, rfl⟩).meeting_unique member
      (by decide) sameConnection
  refine ⟨_, meeting, 2, ⟨"a", "t2", some 3⟩, rfl, rfl, member, sameConnection,
    congrArg Outbox.items queued, rfl, rfl, ?_⟩
  rw [ne_eq, same 2 ⟨"a", "t2", some 3⟩ rfl rfl, first]
  intro unlessReclaimed
  have reclaimed :=
    unlessReclaimed ⟨3, ⟨some "a", some "t2", some "peerjs"⟩, .registered 2⟩ rfl
      (by decide)
  exact absurd reclaimed (by decide)

end Server

end SignalRelay
