import SignalRelay.Proofs.Handshake
import SignalRelay.Proofs.Server

namespace SignalRelay

/-!
# Who holds an id

The directory of a server is a function of what has happened: an id is registered exactly
while the session of the most recent handshake that was given the id has not ended, and
its client is bound to the connection of that handshake.

The invariant `Server.Coherent` ties the books of the relay to the handshakes of the
history.  Only a handshake and the end of a session can disturb it, so there is one lemma
for each way in which a handshake ends, one for the end of a session, and one for
everything else.
-/

/-- Whether an act is no handshake and no end of a session. -/
def Act.isQuiet : Act → Bool
  | .dial .. | .finish _ => false
  | _ => true

namespace Server

/-! ## Projections of the history -/

@[simp] theorem meetings_advance
    (server : Server)
    (happening : Happening)
    (result : Relay × Journal) :
    (server.advance happening result).meetings =
      server.meetings ++ happening.meeting?.toList := by
  cases found : happening.meeting? <;>
    simp [meetings, advance, found]

@[simp] theorem endedConnections_advance
    (server : Server)
    (happening : Happening)
    (result : Relay × Journal) :
    (server.advance happening result).endedConnections =
      server.endedConnections ++ happening.ended?.toList := by
  cases found : happening.ended? <;>
    simp [endedConnections, advance, found]

@[simp] theorem greetedConnections_advance
    (server : Server)
    (happening : Happening)
    (result : Relay × Journal) :
    (server.advance happening result).greetedConnections =
      server.greetedConnections ++ happening.greeted?.toList := by
  cases found : happening.greeted? <;>
    simp [greetedConnections, advance, found]

@[simp] theorem meetings_finish
    (server : Server)
    (session : Session) :
    (server.finish session).meetings = server.meetings := by
  simp [finish, Happening.meeting?]

@[simp] theorem endedConnections_finish
    (server : Server)
    (session : Session) :
    (server.finish session).endedConnections =
      server.endedConnections ++ [session.connection] := by
  simp [finish, Happening.ended?]

@[simp] theorem greetedConnections_finish
    (server : Server)
    (session : Session) :
    (server.finish session).greetedConnections = server.greetedConnections := by
  simp [finish, Happening.greeted?]

/-- One more handshake is a success for the id that it was given, and for no other. -/
theorem successes_of_meetings
    {server after : Server}
    {meeting : Meeting}
    (grown : after.meetings = server.meetings ++ [meeting])
    (id : String) :
    after.successes id =
      server.successes id ++ if meeting.succeededFor id then [meeting] else [] := by
  simp only [successes, grown, List.filter_append, List.filter_cons, List.filter_nil]

theorem successes_of_same_meetings
    {server after : Server}
    (same : after.meetings = server.meetings)
    (id : String) :
    after.successes id = server.successes id := by
  simp [successes, same]

section Handshakes

variable {server : Server} {relay : Relay} {journal : Journal} {meeting : Meeting}

theorem mem_meetings_met
    {other : Meeting} :
    other ∈ (server.advance (.met meeting) (relay, journal)).meetings ↔
      other ∈ server.meetings ∨ other = meeting := by
  simp [Happening.meeting?, eq_comm]

theorem successes_met_other
    {id : String}
    (other : meeting.succeededFor id = false) :
    (server.advance (.met meeting) (relay, journal)).successes id =
      server.successes id := by
  have grown :
      (server.advance (.met meeting) (relay, journal)).meetings =
        server.meetings ++ [meeting] := by
    simp [Happening.meeting?]
  rw [successes_of_meetings grown, other]
  simp

theorem successes_met_same
    {id : String}
    (same : meeting.succeededFor id = true) :
    (server.advance (.met meeting) (relay, journal)).successes id =
      server.successes id ++ [meeting] := by
  have grown :
      (server.advance (.met meeting) (relay, journal)).meetings =
        server.meetings ++ [meeting] := by
    simp [Happening.meeting?]
  rw [successes_of_meetings grown, same]
  simp

end Handshakes

/-- A success is a handshake that presented the id and was given a client. -/
theorem mem_successes
    {server : Server}
    {id : String}
    {meeting : Meeting} :
    meeting ∈ server.successes id ↔
      meeting ∈ server.meetings ∧
        meeting.parameters.id = some id ∧
        ∃ reference, meeting.outcome.client? = some reference := by
  simp [successes, Meeting.succeededFor, Option.isSome_iff_exists]

theorem mem_of_latest?
    {server : Server}
    {id : String}
    {meeting : Meeting}
    (latest : server.latest? id = some meeting) :
    meeting ∈ server.successes id :=
  List.mem_of_getLast? latest

/-- A running session follows from the handshake of its connection and has not ended. -/
theorem of_session?
    {server : Server}
    {connection : ConnectionId}
    {session : Session}
    (running : server.session? connection = some session) :
    session.connection = connection ∧
      connection ∉ server.endedConnections ∧
      ∃ meeting ∈ server.meetings,
        meeting.connection = connection ∧
          meeting.outcome.client? = some session.client := by
  unfold session? at running
  split at running
  · cases running
  · next notEnded =>
      obtain ⟨meeting, found, began⟩ := Option.bind_eq_some_iff.mp running
      have sameConnection : meeting.connection = connection := by
        simpa using List.find?_some found
      obtain ⟨reference, given, rfl⟩ := Option.map_eq_some_iff.mp began
      exact ⟨sameConnection, notEnded, meeting,
        List.mem_of_find?_eq_some found, sameConnection, given⟩

/-! ## What an act does to the books -/

/-- What an act leads to, as far as the books and the handshakes are concerned. -/
inductive Stepped (server : Server) : Server → Prop where
  | dialed
      (address : Option SocketAddress)
      (parameters : HandshakeParameters) :
      Stepped server (server.dial address parameters)
  | finished
      {connection : ConnectionId}
      {session : Session}
      (running : server.session? connection = some session) :
      Stepped server (server.finish session)
  | quiet
      {after : Server}
      (books : Relay.SameBooks server.relay after.relay)
      (meetings : after.meetings = server.meetings)
      (ended : after.endedConnections = server.endedConnections) :
      Stepped server after

/-- An act that is no handshake and no end of a session leaves the books alone. -/
theorem quiet_of_step?
    {server after : Server}
    {act : Act}
    (stepped : server.step? act = some after)
    (quiet : act.isQuiet = true) :
    Relay.SameBooks server.relay after.relay ∧
      after.meetings = server.meetings ∧
      after.endedConnections = server.endedConnections := by
  cases act with
  | dial | finish => cases quiet
  | greet connection =>
      obtain ⟨meeting, -, rfl⟩ := Option.map_eq_some_iff.mp stepped
      exact ⟨Relay.sameBooks_greet ..,
        by simp [greet, Happening.meeting?],
        by simp [greet, Happening.ended?]⟩
  | expire connection =>
      simp only [step?, Option.ite_none_right_eq_some, Option.some.injEq] at stepped
      obtain ⟨-, rfl⟩ := stepped
      exact ⟨Relay.sameBooks_closeConnection ..,
        by simp [Happening.meeting?],
        by simp [Happening.ended?]⟩
  | frame connection octets =>
      obtain ⟨session, -, rfl⟩ := Option.map_eq_some_iff.mp stepped
      exact ⟨Relay.sameBooks_readFrame ..,
        by simp [frame, Happening.meeting?],
        by simp [frame, Happening.ended?]⟩
  | request request =>
      cases stepped
      exact ⟨Relay.sameBooks_relayRequest ..,
        by simp [Server.request, Happening.meeting?],
        by simp [Server.request, Happening.ended?]⟩
  | write connection =>
      obtain ⟨⟨item, outbox⟩, -, rfl⟩ := Option.map_eq_some_iff.mp stepped
      exact ⟨Relay.sameBooks_withOutbox ..,
        by simp [replaceOutbox, Happening.meeting?],
        by simp [replaceOutbox, Happening.ended?]⟩
  | abandon connection =>
      cases stepped
      exact ⟨Relay.sameBooks_withOutbox ..,
        by simp [replaceOutbox, Happening.meeting?],
        by simp [replaceOutbox, Happening.ended?]⟩

/-- Every act is a handshake, the end of a session, or leaves the books alone. -/
theorem stepped_of_step?
    {server after : Server}
    {act : Act}
    (stepped : server.step? act = some after) :
    Stepped server after := by
  cases act with
  | dial address parameters =>
      cases stepped
      exact .dialed address parameters
  | finish connection =>
      obtain ⟨session, running, rfl⟩ := Option.map_eq_some_iff.mp stepped
      exact .finished running
  | greet | expire | frame | request | write | abandon =>
      obtain ⟨books, meetings, ended⟩ := quiet_of_step? stepped rfl
      exact .quiet books meetings ended

/-! ## The invariant -/

/--
An id is held through a reference by a client: the client was registered by a handshake,
all successes since then were reconnections of it, and it is bound to the connection of
the last of them, whose session has not ended.
-/
structure Tenure
    (server : Server)
    (id : String)
    (reference : ClientRef)
    (client : Client)
    (earlier : List Meeting)
    (registration : Meeting)
    (since : List Meeting)
    (latest : Meeting) : Prop where
  known : server.relay.client? reference = some client
  ownId : client.id = id
  successes : server.successes id = earlier ++ registration :: since
  registered : registration.outcome = .registered reference
  reconnected : ∀ meeting ∈ since, meeting.outcome = .reconnected reference
  newest : server.latest? id = some latest
  bound : client.connection = some latest.connection
  running : latest.connection ∉ server.endedConnections

/-- A tenure that a handshake has nothing to do with goes on. -/
theorem Tenure.met_other
    {server : Server}
    {relay : Relay}
    {journal : Journal}
    {meeting : Meeting}
    {id : String}
    {reference : ClientRef}
    {client : Client}
    {earlier since : List Meeting}
    {registration latest : Meeting}
    (tenure : Tenure server id reference client earlier registration since latest)
    (known : relay.client? reference = some client)
    (other : meeting.succeededFor id = false) :
    Tenure (server.advance (.met meeting) (relay, journal))
      id reference client earlier registration since latest where
  known := known
  ownId := tenure.ownId
  successes := by rw [successes_met_other other, tenure.successes]
  registered := tenure.registered
  reconnected := tenure.reconnected
  newest := by
    rw [latest?, successes_met_other other]
    exact tenure.newest
  bound := tenure.bound
  running := by simpa [Happening.ended?] using tenure.running

/-- A reconnection on a connection of which no session has ended goes on with a tenure. -/
theorem Tenure.reconnect
    {server : Server}
    {relay : Relay}
    {journal : Journal}
    {meeting : Meeting}
    {id : String}
    {reference : ClientRef}
    {client : Client}
    {earlier since : List Meeting}
    {registration latest : Meeting}
    (tenure : Tenure server id reference client earlier registration since latest)
    (known :
      relay.client? reference =
        some { client with connection := some meeting.connection })
    (presentsId : meeting.parameters.id = some id)
    (outcome : meeting.outcome = .reconnected reference)
    (running : meeting.connection ∉ server.endedConnections) :
    Tenure (server.advance (.met meeting) (relay, journal))
      id reference { client with connection := some meeting.connection }
      earlier registration (since ++ [meeting]) meeting := by
  have success : meeting.succeededFor id = true := by
    simp [Meeting.succeededFor, presentsId, outcome, HandshakeOutcome.client?]
  exact {
    known := known
    ownId := tenure.ownId
    successes := by
      rw [successes_met_same success, tenure.successes]
      simp
    registered := tenure.registered
    reconnected := by
      intro met member
      rcases List.mem_append.mp member with old | new
      · exact tenure.reconnected met old
      · rw [List.mem_singleton.mp new, outcome]
    newest := by
      rw [latest?, successes_met_same success]
      simp
    bound := rfl
    running := by simpa [Happening.ended?] using running
  }

/-- A registration on a connection of which no session has ended begins a tenure. -/
theorem Tenure.register
    {server : Server}
    {relay : Relay}
    {journal : Journal}
    {meeting : Meeting}
    {id token : String}
    {reference : ClientRef}
    (known :
      relay.client? reference = some ⟨id, token, some meeting.connection⟩)
    (presentsId : meeting.parameters.id = some id)
    (outcome : meeting.outcome = .registered reference)
    (running : meeting.connection ∉ server.endedConnections) :
    Tenure (server.advance (.met meeting) (relay, journal))
      id reference ⟨id, token, some meeting.connection⟩
      (server.successes id) meeting [] meeting := by
  have success : meeting.succeededFor id = true := by
    simp [Meeting.succeededFor, presentsId, outcome, HandshakeOutcome.client?]
  exact {
    known := known
    ownId := rfl
    successes := successes_met_same success
    registered := outcome
    reconnected := by simp
    newest := by
      rw [latest?, successes_met_same success]
      simp
    bound := rfl
    running := by simpa [Happening.ended?] using running
  }

/-- A tenure survives the end of a session on another connection. -/
theorem Tenure.finish
    {server : Server}
    {session : Session}
    {id : String}
    {reference : ClientRef}
    {client : Client}
    {earlier since : List Meeting}
    {registration latest : Meeting}
    (tenure : Tenure server id reference client earlier registration since latest)
    (other : latest.connection ≠ session.connection) :
    Tenure (server.finish session)
      id reference client earlier registration since latest := by
  have sameSuccesses : (server.finish session).successes id = server.successes id :=
    successes_of_same_meetings (Server.meetings_finish ..) id
  exact {
    known := by
      have known := tenure.known
      unfold Relay.client? at known ⊢
      rw [Server.finish, advance, (Relay.endSession_clients ..).1, known]
    ownId := tenure.ownId
    successes := by rw [sameSuccesses, tenure.successes]
    registered := tenure.registered
    reconnected := tenure.reconnected
    newest := by
      rw [latest?, sameSuccesses]
      exact tenure.newest
    bound := tenure.bound
    running := by simp [tenure.running, other]
  }

/-- What the books of a server have to do with its history. -/
structure Coherent (server : Server) : Prop where
  /-- Every connection was opened for one handshake, in the order of the handshakes. -/
  numbered :
    server.meetings.map (·.connection) = List.range server.nextConnection
  /-- Only sessions of connections that there are have ended. -/
  endedKnown :
    ∀ connection ∈ server.endedConnections, connection < server.nextConnection
  /-- A client that was given keeps the id and the token that were presented. -/
  given :
    ∀ meeting ∈ server.meetings,
      ∀ reference,
        meeting.outcome.client? = some reference →
        ∃ client,
          server.relay.client? reference = some client ∧
            meeting.parameters.id = some client.id ∧
            meeting.parameters.token = some client.token
  /-- A registered id is held. -/
  held :
    ∀ id reference,
      server.relay.directory.find? id = some reference →
      ∃ client earlier registration since latest,
        Tenure server id reference client earlier registration since latest
  /-- The session of the last success for an id that is free has ended. -/
  free :
    ∀ id,
      server.relay.directory.find? id = none →
      ∀ latest,
        server.latest? id = some latest →
        latest.connection ∈ server.endedConnections

namespace Coherent

/-- The handshake of a connection stands at the place that the connection counts. -/
theorem meeting_at
    {server : Server}
    (coherent : Coherent server)
    {meeting : Meeting}
    (member : meeting ∈ server.meetings) :
    server.meetings[meeting.connection]? = some meeting := by
  obtain ⟨index, inBounds, found⟩ := List.getElem_of_mem member
  have counted := congrArg (·[index]?) coherent.numbered
  simp only [List.getElem?_map, List.getElem?_eq_getElem inBounds, found,
    Option.map_some] at counted
  have place : index = meeting.connection := by
    obtain ⟨_, same⟩ := List.getElem?_eq_some_iff.mp counted.symm
    simpa using same
  subst place
  rw [List.getElem?_eq_getElem inBounds, found]

theorem meeting_unique
    {server : Server}
    (coherent : Coherent server)
    {first second : Meeting}
    (firstMember : first ∈ server.meetings)
    (secondMember : second ∈ server.meetings)
    (same : first.connection = second.connection) :
    first = second := by
  have firstAt := coherent.meeting_at firstMember
  rw [same, coherent.meeting_at secondMember] at firstAt
  exact (Option.some.inj firstAt).symm

theorem length_meetings
    {server : Server}
    (coherent : Coherent server) :
    server.meetings.length = server.nextConnection := by
  simpa using congrArg List.length coherent.numbered

theorem connection_lt
    {server : Server}
    (coherent : Coherent server)
    {meeting : Meeting}
    (member : meeting ∈ server.meetings) :
    meeting.connection < server.nextConnection := by
  have counted :
      meeting.connection ∈ List.range server.nextConnection := by
    rw [← coherent.numbered]
    exact List.mem_map_of_mem member
  simpa using counted

/-- Every connection that was opened has a handshake. -/
theorem exists_meeting
    {server : Server}
    (coherent : Coherent server)
    {connection : ConnectionId}
    (known : connection < server.nextConnection) :
    ∃ meeting ∈ server.meetings, meeting.connection = connection := by
  have counted : connection ∈ server.meetings.map (·.connection) := by
    rw [coherent.numbered]
    exact List.mem_range.mpr known
  exact List.mem_map.mp counted

theorem meetings_ordered
    {server : Server}
    (coherent : Coherent server) :
    server.meetings.Pairwise fun first second =>
      first.connection < second.connection := by
  have counted :
      (server.meetings.map (·.connection)).Pairwise (· < ·) := by
    rw [coherent.numbered]
    exact List.pairwise_lt_range
  exact List.pairwise_map.mp counted

theorem successes_ordered
    {server : Server}
    (coherent : Coherent server)
    (id : String) :
    (server.successes id).Pairwise fun first second =>
      first.connection < second.connection :=
  coherent.meetings_ordered.filter _

/-- The client of a running session, and the handshake that gave it. -/
theorem of_session?
    {server : Server}
    (coherent : Coherent server)
    {connection : ConnectionId}
    {session : Session}
    (running : server.session? connection = some session) :
    ∃ client meeting,
      server.relay.client? session.client = some client ∧
        meeting ∈ server.successes client.id ∧
        meeting.connection = connection ∧
        meeting.outcome.client? = some session.client ∧
        meeting.parameters.token = some client.token := by
  obtain ⟨-, -, meeting, member, sameConnection, givenClient⟩ :=
    Server.of_session? running
  obtain ⟨client, known, presentedId, presentedToken⟩ :=
    coherent.given meeting member session.client givenClient
  exact ⟨client, meeting, known,
    mem_successes.mpr ⟨member, presentedId, session.client, givenClient⟩,
    sameConnection, givenClient, presentedToken⟩

theorem start
    (settings : Settings) :
    Coherent (Server.start settings) where
  numbered := rfl
  endedKnown := by
    intro connection member
    cases member
  given := by
    intro meeting member
    cases member
  held := by
    intro id reference found
    cases found
  free := by
    intro id _ latest found
    cases found

/-- Nothing is disturbed while the books and the handshakes stay the same. -/
theorem quiet
    {server after : Server}
    (coherent : Coherent server)
    (books : Relay.SameBooks server.relay after.relay)
    (meetings : after.meetings = server.meetings)
    (ended : after.endedConnections = server.endedConnections) :
    Coherent after where
  numbered := by
    rw [meetings, coherent.numbered, nextConnection, nextConnection, books.connections]
  endedKnown := by
    rw [ended, nextConnection, books.connections]
    exact coherent.endedKnown
  given := by
    intro meeting member reference givenClient
    rw [meetings] at member
    rw [books.client?]
    exact coherent.given meeting member reference givenClient
  held := by
    intro id reference found
    rw [books.directory] at found
    obtain ⟨client, earlier, registration, since, latest, tenure⟩ :=
      coherent.held id reference found
    refine ⟨client, earlier, registration, since, latest, ?_⟩
    have sameSuccesses := successes_of_same_meetings meetings id
    exact {
      known := by rw [books.client?, tenure.known]
      ownId := tenure.ownId
      successes := by rw [sameSuccesses, tenure.successes]
      registered := tenure.registered
      reconnected := tenure.reconnected
      newest := by
        rw [latest?, sameSuccesses]
        exact tenure.newest
      bound := tenure.bound
      running := by rw [ended]; exact tenure.running
    }
  free := by
    intro id notFound latest found
    rw [books.directory] at notFound
    rw [latest?, successes_of_same_meetings meetings id] at found
    rw [ended]
    exact coherent.free id notFound latest found

/-! ### Handshakes -/

section Handshakes

variable {server : Server} {relay : Relay} {journal : Journal} {meeting : Meeting}

theorem numbered_met
    (coherent : Coherent server)
    (fresh : meeting.connection = server.nextConnection)
    (opened : relay.connections.length = server.nextConnection + 1) :
    (server.advance (.met meeting) (relay, journal)).meetings.map (·.connection) =
      List.range (server.advance (.met meeting) (relay, journal)).nextConnection := by
  change _ = List.range relay.connections.length
  rw [opened, List.range_succ, ← coherent.numbered, ← fresh]
  simp [Happening.meeting?]

theorem endedKnown_met
    (coherent : Coherent server)
    (opened : relay.connections.length = server.nextConnection + 1) :
    ∀ connection ∈ (server.advance (.met meeting) (relay, journal)).endedConnections,
      connection < (server.advance (.met meeting) (relay, journal)).nextConnection := by
  intro connection member
  change connection < relay.connections.length
  have before := coherent.endedKnown connection
    (by simpa [Happening.ended?] using member)
  rw [opened]
  exact Nat.lt_succ_of_lt before

theorem given_met
    (coherent : Coherent server)
    (kept :
      ∀ {reference client},
        server.relay.client? reference = some client →
        ∃ later,
          relay.client? reference = some later ∧
            later.id = client.id ∧
            later.token = client.token)
    (new :
      ∀ {reference},
        meeting.outcome.client? = some reference →
        ∃ client,
          relay.client? reference = some client ∧
            meeting.parameters.id = some client.id ∧
            meeting.parameters.token = some client.token) :
    ∀ met ∈ (server.advance (.met meeting) (relay, journal)).meetings,
      ∀ reference,
        met.outcome.client? = some reference →
        ∃ client,
          relay.client? reference = some client ∧
            met.parameters.id = some client.id ∧
            met.parameters.token = some client.token := by
  intro met member reference givenClient
  rcases mem_meetings_met.mp member with old | isNew
  · obtain ⟨client, known, presentedId, presentedToken⟩ :=
      coherent.given met old reference givenClient
    obtain ⟨later, knownLater, sameId, sameToken⟩ := kept known
    exact ⟨later, knownLater, by rw [presentedId, sameId],
      by rw [presentedToken, sameToken]⟩
  · subst met
    exact new givenClient

/-- An id that a handshake has nothing to do with stays free. -/
theorem free_met
    (coherent : Coherent server)
    {id : String}
    (notFound : server.relay.directory.find? id = none)
    (other : meeting.succeededFor id = false) :
    ∀ latest,
      (server.advance (.met meeting) (relay, journal)).latest? id = some latest →
      latest.connection ∈
        (server.advance (.met meeting) (relay, journal)).endedConnections := by
  intro latest found
  rw [latest?, successes_met_other other] at found
  simpa [Happening.ended?] using coherent.free id notFound latest found

theorem next_running
    (coherent : Coherent server) :
    server.nextConnection ∉ server.endedConnections :=
  fun ended => Nat.lt_irrefl _ (coherent.endedKnown _ ended)

theorem refused
    (coherent : Coherent server)
    (fresh : meeting.connection = server.nextConnection)
    (opened : relay.connections.length = server.nextConnection + 1)
    (clients : relay.clients = server.relay.clients)
    (directory : relay.directory = server.relay.directory)
    (clientless : meeting.outcome.client? = none) :
    Coherent (server.advance (.met meeting) (relay, journal)) := by
  have other (id : String) : meeting.succeededFor id = false := by
    simp [Meeting.succeededFor, clientless]
  have sameClient (reference : ClientRef) :
      relay.client? reference = server.relay.client? reference := by
    simp [Relay.client?, clients]
  refine {
    numbered := coherent.numbered_met fresh opened
    endedKnown := coherent.endedKnown_met opened
    given := coherent.given_met ?_ ?_
    held := ?_
    free := ?_
  }
  · intro reference client known
    exact ⟨client, by rw [sameClient, known], rfl, rfl⟩
  · intro reference givenClient
    rw [clientless] at givenClient
    cases givenClient
  · intro id reference found
    change relay.directory.find? id = some reference at found
    rw [directory] at found
    obtain ⟨client, earlier, registration, since, latest, tenure⟩ :=
      coherent.held id reference found
    exact ⟨client, earlier, registration, since, latest,
      tenure.met_other (by rw [sameClient, tenure.known]) (other id)⟩
  · intro id notFound
    change relay.directory.find? id = none at notFound
    rw [directory] at notFound
    exact coherent.free_met notFound (other id)

/-- A handshake that binds the client of an id again goes on with its tenure. -/
theorem rebound
    (coherent : Coherent server)
    (fresh : meeting.connection = server.nextConnection)
    {before : Relay}
    (opened : before.connections.length = server.nextConnection + 1)
    (clients : before.clients = server.relay.clients)
    (directory : before.directory = server.relay.directory)
    {id : String}
    {reference : ClientRef}
    {client : Client}
    (presentsId : meeting.parameters.id = some id)
    (presentsToken : meeting.parameters.token = some client.token)
    (registered : before.directory.find? id = some reference)
    (known : before.client? reference = some client)
    (outcome : meeting.outcome = .reconnected reference) :
    Coherent
      (server.advance (.met meeting)
        (before.bind reference meeting.connection, journal)) := by
  have sameClient (other : ClientRef) :
      before.client? other = server.relay.client? other := by
    simp [Relay.client?, clients]
  have forOther {other : String} (different : other ≠ id) :
      meeting.succeededFor other = false := by
    simp [Meeting.succeededFor, presentsId, Ne.symm different]
  rw [directory] at registered
  rw [sameClient] at known
  obtain ⟨holder, earlier, registration, since, latest, tenure⟩ :=
    coherent.held id reference registered
  have sameHolder : holder = client :=
    Option.some.inj (tenure.known.symm.trans known)
  subst holder
  have boundNow :
      (before.bind reference meeting.connection).client? reference =
        some { client with connection := some meeting.connection } := by
    rw [Relay.client?_bind, if_pos rfl, sameClient, known, Option.map_some]
  refine {
    numbered := coherent.numbered_met fresh opened
    endedKnown := coherent.endedKnown_met opened
    given := coherent.given_met ?_ ?_
    held := ?_
    free := ?_
  }
  · intro other held knownHeld
    rw [Relay.client?_bind, sameClient, knownHeld]
    split
    · exact ⟨_, rfl, rfl, rfl⟩
    · exact ⟨held, rfl, rfl, rfl⟩
  · intro other givenClient
    rw [outcome] at givenClient
    cases givenClient
    exact ⟨_, boundNow, by rw [presentsId, tenure.ownId], presentsToken⟩
  · intro other otherReference found
    change before.directory.find? other = some otherReference at found
    rw [directory] at found
    by_cases same : other = id
    · subst other
      rw [registered] at found
      cases found
      exact ⟨_, earlier, registration, since ++ [meeting], meeting,
        tenure.reconnect boundNow presentsId outcome (fresh ▸ coherent.next_running)⟩
    · obtain ⟨otherClient, otherEarlier, otherRegistration, otherSince, otherLatest,
          otherTenure⟩ := coherent.held other otherReference found
      -- A reference that held two ids would stand for a client with two own ids.
      have different : otherReference ≠ reference := by
        intro sameReference
        have knownOther := otherTenure.known
        rw [sameReference, tenure.known] at knownOther
        cases knownOther
        exact same (otherTenure.ownId.symm.trans tenure.ownId)
      exact ⟨otherClient, otherEarlier, otherRegistration, otherSince, otherLatest,
        otherTenure.met_other
          (by rw [Relay.client?_bind_other different, sameClient, otherTenure.known])
          (forOther same)⟩
  · intro other notFound
    change before.directory.find? other = none at notFound
    rw [directory] at notFound
    have different : other ≠ id := by
      intro same
      rw [same, registered] at notFound
      cases notFound
    exact coherent.free_met notFound (forOther different)

/-- A handshake that registers an id begins its tenure. -/
theorem registered
    (coherent : Coherent server)
    (fresh : meeting.connection = server.nextConnection)
    {before : Relay}
    (opened : before.connections.length = server.nextConnection + 1)
    (clients : before.clients = server.relay.clients)
    (directory : before.directory = server.relay.directory)
    {id token : String}
    (presentsId : meeting.parameters.id = some id)
    (presentsToken : meeting.parameters.token = some token)
    (outcome : meeting.outcome = .registered before.clients.length) :
    Coherent
      (server.advance (.met meeting)
        (before.withNewClient ⟨id, token, some meeting.connection⟩, journal)) := by
  have kept {reference : ClientRef} {client : Client}
      (known : server.relay.client? reference = some client) :
      (before.withNewClient ⟨id, token, some meeting.connection⟩).client? reference =
        some client := by
    apply Relay.client?_withNewClient_of_some
    simpa [Relay.client?, clients] using known
  have forOther {other : String} (different : other ≠ id) :
      meeting.succeededFor other = false := by
    simp [Meeting.succeededFor, presentsId, Ne.symm different]
  have newClient :=
    Relay.client?_withNewClient_new before ⟨id, token, some meeting.connection⟩
  refine {
    numbered := coherent.numbered_met fresh opened
    endedKnown := coherent.endedKnown_met opened
    given := coherent.given_met ?_ ?_
    held := ?_
    free := ?_
  }
  · intro reference client known
    exact ⟨client, kept known, rfl, rfl⟩
  · intro reference givenClient
    rw [outcome] at givenClient
    cases givenClient
    exact ⟨_, newClient, presentsId, presentsToken⟩
  · intro other reference found
    change (before.directory.insert id before.clients.length).find? other =
      some reference at found
    by_cases same : other = id
    · subst other
      rw [Directory.find?_insert_same] at found
      cases found
      exact ⟨_, _, meeting, [], meeting,
        .register newClient presentsId outcome (fresh ▸ coherent.next_running)⟩
    · rw [Directory.find?_insert_other same, directory] at found
      obtain ⟨client, earlier, registration, since, latest, tenure⟩ :=
        coherent.held other reference found
      exact ⟨client, earlier, registration, since, latest,
        tenure.met_other (kept tenure.known) (forOther same)⟩
  · intro other notFound
    change (before.directory.insert id before.clients.length).find? other =
      none at notFound
    have different : other ≠ id := by
      intro same
      rw [same, Directory.find?_insert_same] at notFound
      cases notFound
    rw [Directory.find?_insert_other different, directory] at notFound
    exact coherent.free_met notFound (forOther different)

/-- Whatever a handshake comes to, it disturbs nothing. -/
theorem dialed
    (coherent : Coherent server)
    (address : Option SocketAddress)
    (parameters : HandshakeParameters) :
    Coherent (server.dial address parameters) := by
  have opened :
      (server.relay.openConnection address).1.connections.length =
        server.nextConnection + 1 := by
    simp [Relay.openConnection, nextConnection]
  have result :=
    Relay.handshake_result (server.relay.openConnection address).1 parameters
      server.nextConnection
  unfold dial met Relay.meet
  cases shaken :
      (server.relay.openConnection address).1.handshake parameters
        server.nextConnection with
  | mk relay outcome =>
      rw [shaken] at result
      cases result with
      | refused clientless =>
          exact coherent.refused rfl opened rfl rfl clientless
      | rebound presentsId presentsToken registered known =>
          exact coherent.rebound rfl opened rfl rfl presentsId presentsToken registered
            known rfl
      | registered presentsId presentsToken unknown room =>
          exact coherent.registered rfl opened rfl rfl presentsId presentsToken rfl

end Handshakes

/-! ### Ends of sessions -/

section Ends

variable {server : Server} {connection : ConnectionId} {session : Session}

/--
The connection that holds an id is the one of an ended session only if the id is the own
id of that session's client.
-/
theorem ownId_of_latest
    (coherent : Coherent server)
    (running : server.session? connection = some session)
    {id : String}
    {latest : Meeting}
    (newest : server.latest? id = some latest)
    (same : latest.connection = connection) :
    server.relay.clientId session.client = id := by
  obtain ⟨client, meeting, known, success, sameConnection, -, -⟩ :=
    coherent.of_session? running
  obtain ⟨member, presentedOwn, -⟩ := mem_successes.mp success
  obtain ⟨latestMember, presentedId, -⟩ := mem_successes.mp (mem_of_latest? newest)
  have sameMeeting : latest = meeting :=
    coherent.meeting_unique latestMember member (same.trans sameConnection.symm)
  rw [sameMeeting, presentedOwn] at presentedId
  rw [Relay.clientId_of_client? known]
  exact Option.some.inj presentedId

/-- The end of a session disturbs nothing but what its own connection holds. -/
theorem finished
    (coherent : Coherent server)
    (running : server.session? connection = some session) :
    Coherent (server.finish session) := by
  obtain ⟨sameConnection, -, meeting, member, metConnection, -⟩ :=
    Server.of_session? running
  subst connection
  obtain ⟨sameClients, sameCount⟩ := Relay.endSession_clients server.relay session
  have sameMeetings := meetings_finish server session
  have endedNow {other : ConnectionId} :
      other ∈ (server.finish session).endedConnections ↔
        other ∈ server.endedConnections ∨ other = session.connection := by
    simp
  have foundNow (id : String) :=
    Relay.find?_endSession server.relay session id
  refine {
    numbered := ?_
    endedKnown := ?_
    given := ?_
    held := ?_
    free := ?_
  }
  · change _ = List.range (server.relay.endSession session).1.connections.length
    rw [sameMeetings, sameCount]
    exact coherent.numbered
  · intro other ended
    change other < (server.relay.endSession session).1.connections.length
    rw [sameCount]
    rcases endedNow.mp ended with before | now
    · exact coherent.endedKnown other before
    · rw [now, ← metConnection]
      exact coherent.connection_lt member
  · intro met metMember reference givenClient
    rw [sameMeetings] at metMember
    change ∃ client, (server.relay.endSession session).1.clients[reference]? = _ ∧ _
    rw [sameClients]
    exact coherent.given met metMember reference givenClient
  · intro id reference found
    change (server.relay.endSession session).1.directory.find? id = _ at found
    rw [foundNow] at found
    split at found
    · cases found
    · next notTaken =>
        obtain ⟨client, earlier, registration, since, latest, tenure⟩ :=
          coherent.held id reference found
        refine ⟨client, earlier, registration, since, latest,
          tenure.finish ?_⟩
        -- Had this connection held the id, its end would have taken the id away.
        intro same
        have own := coherent.ownId_of_latest running tenure.newest same
        apply notTaken
        refine ⟨own.symm, (Relay.boundEntry?_isSome_iff ..).mpr ⟨reference, found, ?_⟩⟩
        rw [Relay.connectionOf_of_client? tenure.known, tenure.bound, same]
  · intro id notFound latest newest
    rw [latest?, successes_of_same_meetings sameMeetings id] at newest
    change (server.relay.endSession session).1.directory.find? id = none at notFound
    rw [foundNow] at notFound
    split at notFound
    · next taken =>
        obtain ⟨reference, found, bound⟩ := (Relay.boundEntry?_isSome_iff ..).mp taken.2
        obtain ⟨client, _, _, _, holding, tenure⟩ := coherent.held id reference found
        have sameLatest : holding = latest :=
          Option.some.inj (tenure.newest.symm.trans newest)
        rw [Relay.connectionOf_of_client? tenure.known, tenure.bound, sameLatest] at bound
        exact endedNow.mpr (.inr (Option.some.inj bound))
    · exact endedNow.mpr (.inl (coherent.free id notFound latest newest))

end Ends

/-- Every act keeps a server coherent. -/
theorem step
    {server after : Server}
    {act : Act}
    (coherent : Coherent server)
    (stepped : server.step? act = some after) :
    Coherent after := by
  cases stepped_of_step? stepped with
  | dialed address parameters =>
      exact coherent.dialed address parameters
  | finished running =>
      exact coherent.finished running
  | quiet books meetings ended =>
      exact coherent.quiet books meetings ended

/-- Every run leads to a coherent server. -/
theorem of_reachable
    {settings : Settings}
    {server : Server}
    (reachable : Reachable settings server) :
    Coherent server :=
  reachable.induction (.start settings) fun _ coherent stepped => coherent.step stepped

end Coherent

end Server

end SignalRelay
