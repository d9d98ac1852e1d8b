import SignalRelay.Proofs.Holders

namespace SignalRelay

/-!
# The life of sessions, as it is told

A subscriber is told when a session begins, when it ends, and whether its end gave an id up.
Where every session begins as soon as its handshake is over, these events are enough to know
which ids are registered: those that were announced and not given up since.

The invariant `Server.Replayed` is kept by an arrival, which is a handshake with the begin of the
session that it leads to, by the end of a session, and by every other act.
-/

namespace Event

/-- The connection of the session whose begin or end an event tells. -/
def lifeOf? : Event → Option ConnectionId
  | .connected _ connection => some connection
  | .disconnected _ connection _ => some connection
  | .message .. | .malformed .. => none

/-- The id that was given up when a session ended. -/
def released? : Event → Option String
  | .disconnected id _ true => some id
  | _ => none

/-- An id was announced and has not been given up since. -/
def Standing (events : List Event) (id : String) : Prop :=
  ∃ earlier connection later,
    events = earlier ++ .connected id connection :: later ∧
      ∀ other, .disconnected id other true ∉ later

/-- The last event announces an id, or does not give it up. -/
theorem standing_concat
    {events : List Event}
    {event : Event}
    {id : String} :
    Standing (events ++ [event]) id ↔
      (∃ connection, event = .connected id connection) ∨
        Standing events id ∧ event.released? ≠ some id := by
  constructor
  · rintro ⟨earlier, connection, later, split, kept⟩
    rcases List.eq_nil_or_concat later with rfl | ⟨before, last, rfl⟩
    · have same := (List.append_inj_right' split rfl)
      exact .inl ⟨connection, (List.cons.inj same).1⟩
    · rw [List.concat_eq_append] at split kept
      rw [← List.cons_append, ← List.append_assoc] at split
      obtain ⟨sameEvents, sameLast⟩ := List.append_inj' split rfl
      cases sameLast
      refine .inr ⟨⟨earlier, connection, before, sameEvents, fun other member =>
        kept other (List.mem_append_left _ member)⟩, ?_⟩
      intro released
      cases event with
      | disconnected client other evicted =>
          cases evicted with
          | true =>
              cases released
              exact kept other (List.mem_append_right _ List.mem_cons_self)
          | false => cases released
      | connected | message | malformed => cases released
  · rintro (⟨connection, rfl⟩ | ⟨⟨earlier, connection, later, rfl, kept⟩, unreleased⟩)
    · exact ⟨events, connection, [], rfl, fun _ => List.not_mem_nil⟩
    · refine ⟨earlier, connection, later ++ [event], by simp, ?_⟩
      intro other member
      rcases List.mem_append.mp member with before | last
      · exact kept other before
      · cases List.mem_singleton.mp last
        exact unreleased rfl

/-- Events that are no begin of a session and give nothing up change nothing. -/
theorem standing_append
    {events more : List Event}
    (silent : ∀ event ∈ more, event.lifeOf? = none)
    (id : String) :
    Standing (events ++ more) id ↔ Standing events id := by
  induction more generalizing events with
  | nil =>
      rw [List.append_nil]
  | cons event rest inductionHypothesis =>
      have noLife := silent event List.mem_cons_self
      rw [List.append_cons, inductionHypothesis fun later member =>
        silent later (List.mem_cons_of_mem _ member), standing_concat]
      cases event with
      | message | malformed => simp [released?]
      | connected | disconnected => cases noLife

end Event

namespace Server

/-- The act by which the session begins that an act leads to. -/
def beginning? (server : Server) : Act → Option Act
  | .dial address parameters =>
      (server.met address parameters).2.2.client?.map fun _ => .greet server.nextConnection
  | _ => none

theorem of_beginning?
    {server : Server}
    {act beginning : Act}
    (begins : server.beginning? act = some beginning) :
    ∃ address parameters, act = .dial address parameters := by
  unfold beginning? at begins
  split at begins
  · exact ⟨_, _, rfl⟩
  · cases begins

/-- Whether every session begins as soon as its handshake is over. -/
def prompt : Server → List Act → Bool
  | _, [] => true
  | server, act :: rest =>
      (server.beginning? act).all (fun beginning => rest.head? == some beginning) &&
        (server.step? act).all (·.prompt rest)

/-- The handshakes that registered an id. -/
def registrations (server : Server) (id : String) : List Meeting :=
  (server.successes id).filter (·.isRegistration)

/-- How often it was told that an id was given up. -/
def releases (server : Server) (id : String) : Nat :=
  (server.journal.events.filterMap Event.released?).count id

/-- What was told of the session of a connection. -/
def life (server : Server) (connection : ConnectionId) : List Event :=
  server.journal.events.filter (·.lifeOf? == some connection)

/-- What is to be told of the session of a connection: nothing if it has none, else its begin,
and its end once it has ended. -/
inductive Lived (server : Server) (connection : ConnectionId) : List Event → Prop where
  | sessionless
      (clientless :
        ∀ meeting ∈ server.meetings,
          meeting.connection = connection → meeting.outcome.client? = none) :
      Lived server connection []
  | running
      {meeting : Meeting}
      {id : String}
      (success : meeting ∈ server.successes id)
      (own : meeting.connection = connection)
      (running : connection ∉ server.endedConnections) :
      Lived server connection [.connected id connection]
  | ended
      {meeting : Meeting}
      {id : String}
      {evicted : Bool}
      (success : meeting ∈ server.successes id)
      (own : meeting.connection = connection)
      (ended : connection ∈ server.endedConnections) :
      Lived server connection
        [.connected id connection, .disconnected id connection evicted]

/-- The events tell which ids are registered and what became of every session. -/
structure Replayed (server : Server) : Prop where
  coherent : Coherent server
  /-- No session has still to begin. -/
  begun :
    ∀ meeting ∈ server.meetings,
      meeting.outcome.client?.isSome → meeting.connection ∈ server.greetedConnections
  standing :
    ∀ id, (server.relay.holder? id).isSome ↔ Event.Standing server.journal.events id
  lived :
    ∀ connection, server.Lived connection (server.life connection)
  balanced :
    ∀ id,
      (server.registrations id).length =
        server.releases id + if (server.relay.holder? id).isSome then 1 else 0

variable {settings : Settings} {server after : Server} {act : Act}

/-! ## One more event -/

theorem life_of_events
    {event : Event}
    (told : after.journal.events = server.journal.events ++ [event])
    (connection : ConnectionId) :
    after.life connection =
      server.life connection ++ if event.lifeOf? = some connection then [event] else [] := by
  simp [life, told, List.filter_append, List.filter_cons]

theorem releases_of_events
    {event : Event}
    (told : after.journal.events = server.journal.events ++ [event])
    (id : String) :
    after.releases id =
      server.releases id + if event.released? = some id then 1 else 0 := by
  rw [releases, told, List.filterMap_append, List.count_append, ← releases]
  cases released : event.released? with
  | none => simp [released]
  | some other => simp [released, List.count_singleton]

theorem registrations_of_meetings
    {meeting : Meeting}
    (grown : after.meetings = server.meetings ++ [meeting])
    (id : String) :
    (after.registrations id).length =
      (server.registrations id).length +
        if meeting.succeededFor id ∧ meeting.isRegistration then 1 else 0 := by
  rw [registrations, successes_of_meetings grown, List.filter_append, List.length_append,
    ← registrations]
  by_cases success : meeting.succeededFor id = true
  · by_cases registers : meeting.isRegistration = true
    · simp [success, registers]
    · simp [success, registers]
  · simp [success]

/-! ## Acts that sessions are not concerned with -/

/-- No session began or ended, and no id was registered or given up. -/
structure Idle (before after : Server) : Prop where
  holders : ∀ id, after.relay.holder? id = before.relay.holder? id
  meetings :
    ∃ refused,
      after.meetings = before.meetings ++ refused ∧
        ∀ meeting ∈ refused, meeting.outcome.client? = none
  ended : after.endedConnections = before.endedConnections
  greeted : before.greetedConnections ⊆ after.greetedConnections
  told :
    ∃ silent,
      after.journal.events = before.journal.events ++ silent ∧
        ∀ event ∈ silent, event.lifeOf? = none

namespace Idle

theorem successes
    (idle : Idle server after)
    (id : String) :
    after.successes id = server.successes id := by
  obtain ⟨refused, grown, clientless⟩ := idle.meetings
  rw [Server.successes, grown, List.filter_append, ← Server.successes,
    List.append_right_eq_self, List.filter_eq_nil_iff]
  intro meeting member
  simp [Meeting.succeededFor, clientless meeting member]

theorem life
    (idle : Idle server after)
    (connection : ConnectionId) :
    after.life connection = server.life connection := by
  obtain ⟨silent, told, noLife⟩ := idle.told
  rw [Server.life, told, List.filter_append, ← Server.life, List.append_right_eq_self,
    List.filter_eq_nil_iff]
  intro event member
  simp [noLife event member]

theorem releases
    (idle : Idle server after)
    (id : String) :
    after.releases id = server.releases id := by
  obtain ⟨silent, told, noLife⟩ := idle.told
  have unreleased : silent.filterMap Event.released? = [] := by
    rw [List.filterMap_eq_nil_iff]
    intro event member
    have none := noLife event member
    cases event with
    | message | malformed => rfl
    | connected | disconnected => cases none
  rw [Server.releases, told, List.filterMap_append, unreleased, List.append_nil,
    ← Server.releases]

/-- What was to be told of a session is to be told still. -/
theorem lived
    (idle : Idle server after)
    {connection : ConnectionId}
    {events : List Event}
    (lived : server.Lived connection events) :
    after.Lived connection events := by
  cases lived with
  | sessionless clientless =>
      obtain ⟨refused, grown, refusedClientless⟩ := idle.meetings
      refine .sessionless fun meeting member own => ?_
      rcases List.mem_append.mp (grown ▸ member) with before | new
      · exact clientless meeting before own
      · exact refusedClientless meeting new
  | running success own running =>
      exact .running (idle.successes _ ▸ success) own (idle.ended ▸ running)
  | ended success own ended =>
      exact .ended (idle.successes _ ▸ success) own (idle.ended ▸ ended)

end Idle

theorem Replayed.idle
    (replayed : Replayed server)
    (coherent : Coherent after)
    (idle : Idle server after) :
    Replayed after where
  coherent := coherent
  begun := by
    intro meeting member given
    obtain ⟨refused, grown, clientless⟩ := idle.meetings
    rcases List.mem_append.mp (grown ▸ member) with before | new
    · exact idle.greeted (replayed.begun meeting before given)
    · rw [clientless meeting new] at given
      cases given
  standing := by
    intro id
    obtain ⟨silent, told, noLife⟩ := idle.told
    rw [idle.holders, replayed.standing, told, Event.standing_append noLife]
  lived := by
    intro connection
    rw [idle.life]
    exact idle.lived (replayed.lived connection)
  balanced := by
    intro id
    rw [registrations, idle.successes, idle.releases, idle.holders]
    exact replayed.balanced id

theorem idle_of_quiet
    {silent : List Event}
    (stepped : server.step? act = some after)
    (quiet : act.isQuiet = true)
    (told : after.journal.events = server.journal.events ++ silent)
    (noLife : ∀ event ∈ silent, event.lifeOf? = none) :
    Idle server after := by
  obtain ⟨books, meetings, ended⟩ := quiet_of_step? stepped quiet
  exact {
    holders := books.holder?
    meetings :=
      ⟨[], by rw [meetings, List.append_nil], fun _ member => (List.not_mem_nil member).elim⟩
    ended := ended
    greeted := by
      rw [greetedConnections_of_step? stepped]
      exact List.subset_append_left ..
    told := ⟨silent, told, noLife⟩
  }

theorem idle_of_eventless
    (stepped : server.step? act = some after)
    (quiet : act.isQuiet = true)
    (told : after.journal.events = server.journal.events) :
    Idle server after :=
  idle_of_quiet stepped quiet (told.trans (List.append_nil _).symm) fun _ member =>
    (List.not_mem_nil member).elim

/-- Routing a message makes no event. -/
theorem events_route
    (relay : Relay)
    (message : Message) :
    (relay.route message).2.1.events = [] := by
  by_cases reached : ∃ target, relay.Reaches message target
  · obtain ⟨target, reaches⟩ := reached
    rw [Relay.route_of_reaches reaches]
    rfl
  · exact (Relay.route_of_not_reaches fun target reaches => reached ⟨target, reaches⟩).2

theorem events_request
    (server : Server)
    (request : RelayRequest) :
    (server.request request).journal.events = server.journal.events := by
  change (server.advance _ ((server.relay.relayRequest request).1,
    (server.relay.relayRequest request).2.1)).journal.events = _
  rw [events_advance]
  suffices eventless : (server.relay.relayRequest request).2.1.events = [] by
    rw [eventless, List.append_nil]
  unfold Relay.relayRequest
  split
  · rfl
  · next message _ =>
      have routed := events_route server.relay message
      split
      · next done => simpa [done] using routed
      · next failed => simpa [failed] using routed

/-- A frame makes one event, and that is no begin or end of a session. -/
theorem events_frame
    (server : Server)
    (session : Session)
    (octets : Octets) :
    ∃ event,
      (server.frame session octets).journal.events = server.journal.events ++ [event] ∧
        event.lifeOf? = none := by
  cases read : Message.ofOctets octets with
  | error fault => exact ⟨_, (server.frame_of_error session read).2, rfl⟩
  | ok message => exact ⟨_, frame_events_of_ok read, rfl⟩

/-- Of what a connection is told after its handshake, the begin of its session is an event. -/
theorem events_greet
    (server : Server)
    (meeting : Meeting) :
    (server.greet meeting).journal.events =
      server.journal.events ++
        meeting.session?.toList.map fun session =>
          .connected (server.relay.clientId session.client) session.connection := by
  have books := Relay.sameBooks_greet server.relay meeting.connection meeting.outcome
  have silent : (server.relay.greet meeting.connection meeting.outcome).2.events = [] := by
    unfold Relay.greet
    cases meeting.outcome <;> rfl
  unfold greet
  generalize server.relay.greet meeting.connection meeting.outcome = told at books silent ⊢
  obtain ⟨relay, journal⟩ := told
  change Journal.events (server.journal ++ (journal ++ _)) = _
  rw [Journal.events, List.filterMap_append, List.filterMap_append, ← Journal.events,
    ← Journal.events, silent, List.nil_append]
  cases meeting.session? with
  | none => rfl
  | some session => simp [Relay.beginSession, books.clientId, JournalEntry.event?]

/-- A handshake that leads to no session. -/
theorem idle_dial
    {address : Option SocketAddress}
    {parameters : HandshakeParameters}
    (clientless : (server.met address parameters).2.2.client? = none) :
    Idle server (server.dial address parameters) := by
  have result :=
    Relay.handshake_result (server.relay.openConnection address).1 parameters
      server.nextConnection
  change (Relay.handshake _ parameters _).2.client? = none at clientless
  unfold dial met Relay.meet
  generalize Relay.handshake _ parameters _ = shaken at result clientless ⊢
  cases result with
  | refused =>
      exact {
        holders := fun _ => rfl
        meetings :=
          ⟨[_], meetings_advance .., fun meeting member => by
            cases List.mem_singleton.mp member
            exact clientless⟩
        ended := by simp [Happening.ended?]
        greeted := by simp
        told := ⟨[], events_advance .., fun _ member => (List.not_mem_nil member).elim⟩
      }
  | rebound => cases clientless
  | registered => cases clientless

/-- Acts by which no session begins or ends concern no session. -/
theorem Replayed.idle_of_step?
    (replayed : Replayed server)
    (stepped : server.step? act = some after)
    (beginless : server.beginning? act = none)
    (endless : ∀ connection, act ≠ .finish connection) :
    Idle server after := by
  cases act with
  | dial address parameters =>
      cases stepped
      exact idle_dial (Option.map_eq_none_iff.mp beginless)
  | greet connection =>
      refine idle_of_eventless stepped rfl ?_
      obtain ⟨meeting, ungreeted, rfl⟩ := Option.map_eq_some_iff.mp stepped
      obtain ⟨member, rfl, notGreeted⟩ := of_ungreeted? ungreeted
      -- A connection that has a session was greeted when its session began.
      have clientless : meeting.outcome.client? = none :=
        Option.not_isSome_iff_eq_none.mp fun given =>
          notGreeted (replayed.begun meeting member given)
      simp [events_greet, Meeting.session?, clientless]
  | expire connection =>
      refine idle_of_eventless stepped rfl ?_
      simp only [step?, Option.ite_none_right_eq_some, Option.some.injEq] at stepped
      obtain ⟨-, rfl⟩ := stepped
      exact (events_advance ..).trans (List.append_nil _)
  | frame connection octets =>
      obtain ⟨session, -, rfl⟩ := Option.map_eq_some_iff.mp stepped
      obtain ⟨event, told, noLife⟩ := server.events_frame session octets
      exact idle_of_quiet stepped rfl told fun other member =>
        List.mem_singleton.mp member ▸ noLife
  | request request =>
      cases stepped
      exact @idle_of_eventless _ _ (.request request) rfl rfl (server.events_request request)
  | finish connection => exact (endless connection rfl).elim
  | write connection =>
      refine idle_of_eventless stepped rfl ?_
      obtain ⟨⟨item, outbox⟩, -, rfl⟩ := Option.map_eq_some_iff.mp stepped
      exact (events_advance ..).trans (List.append_nil _)
  | abandon connection =>
      refine idle_of_eventless stepped rfl ?_
      cases stepped
      exact (events_advance ..).trans (List.append_nil _)

/-! ## Arrivals -/

/-- A session began, at once after its handshake. -/
structure Arrived (before : Server) (meeting : Meeting) (id : String) (after : Server) :
    Prop where
  meetings : after.meetings = before.meetings ++ [meeting]
  fresh : meeting.connection = before.nextConnection
  presents : meeting.parameters.id = some id
  given : meeting.outcome.client?.isSome
  registers : meeting.isRegistration = true ↔ before.relay.holder? id = none
  ended : after.endedConnections = before.endedConnections
  greeted : after.greetedConnections = before.greetedConnections ++ [meeting.connection]
  told : after.journal.events = before.journal.events ++ [.connected id meeting.connection]
  holds : (after.relay.holder? id).isSome
  kept : ∀ other, other ≠ id → after.relay.holder? other = before.relay.holder? other

/-- The id that a success presents is held afterwards, and was not before exactly if it was
registered. -/
theorem Enrolled.holds
    {parameters : HandshakeParameters}
    {relay : Relay}
    {outcome : HandshakeOutcome}
    (enrolled : Enrolled server parameters relay outcome)
    (given : outcome.client?.isSome)
    {id : String}
    (presents : parameters.id = some id) :
    (relay.holder? id).isSome ∧
      ((∃ reference, outcome = .registered reference) ↔ server.relay.holder? id = none) ∧
      ∀ other, other ≠ id → relay.holder? other = server.relay.holder? other := by
  cases enrolled with
  | unfit | taken | crowded => cases given
  | @rebound _ reference client passed held own directory bound kept =>
      cases (Settings.of_examine passed).1.symm.trans presents
      refine ⟨by rw [bound, Option.isSome_some], ?_, kept⟩
      simp [held]
  | @registered _ reference passed free room directory entered kept =>
      cases (Settings.of_examine passed).1.symm.trans presents
      exact ⟨by rw [entered, Option.isSome_some], ⟨fun _ => free, fun _ => ⟨_, rfl⟩⟩, kept⟩

/-- A handshake that leads to a session and the begin of that are an arrival. -/
theorem Coherent.arrived
    (coherent : Coherent server)
    {address : Option SocketAddress}
    {parameters : HandshakeParameters}
    {beginning : Act}
    (begins : server.beginning? (.dial address parameters) = some beginning)
    (stepped : (server.dial address parameters).step? beginning = some after) :
    ∃ meeting id, Arrived server meeting id after := by
  obtain ⟨reference, given, rfl⟩ := Option.map_eq_some_iff.mp begins
  obtain ⟨outcome, grown, enrolled⟩ := coherent.enrolled address parameters
  have dialed := coherent.dialed address parameters
  obtain ⟨meeting, ungreeted, rfl⟩ := Option.map_eq_some_iff.mp stepped
  obtain ⟨member, fresh, notGreeted⟩ := of_ungreeted? ungreeted
  -- The connection is the one that the handshake opened, so it is told of that.
  have same : meeting = ⟨server.nextConnection, parameters, outcome⟩ :=
    dialed.meeting_unique member
      (grown ▸ List.mem_append_right _ List.mem_cons_self) fresh
  have outcomeGiven : outcome.client? = some reference := by
    have met := (meetings_advance ..).symm.trans grown
    cases List.append_cancel_left met
    exact given
  subst same
  obtain ⟨client, known, presents, -⟩ := dialed.given _ member reference outcomeGiven
  have books := Relay.sameBooks_greet (server.dial address parameters).relay
    server.nextConnection outcome
  obtain ⟨holds, registers, kept⟩ :=
    enrolled.holds (Option.isSome_of_eq_some outcomeGiven) presents
  refine ⟨_, client.id, {
    meetings := ?meetings
    fresh := rfl
    presents := presents
    given := Option.isSome_of_eq_some outcomeGiven
    registers := ?registers
    ended := ?ended
    greeted := ?greeted
    told := ?told
    holds := ?holds
    kept := ?kept
  }⟩
  case meetings => simp [greet, Happening.meeting?, grown]
  case registers =>
    rw [← registers]
    cases outcome with
    | registered => simp [Meeting.isRegistration]
    | reconnected | rejected | idTaken => simp [Meeting.isRegistration]
  case ended => simp [greet, dial, Happening.ended?]
  case greeted =>
    rw [greetedConnections_of_step? stepped,
      @greetedConnections_of_step? server _ (.dial address parameters) rfl]
    simp [Act.greeted?]
  case told =>
    have told := events_greet (server.dial address parameters)
      ⟨server.nextConnection, parameters, outcome⟩
    have quiet : (server.dial address parameters).journal.events = server.journal.events := by
      simp [dial, met, Relay.meet, advance, Journal.events, JournalEntry.event?]
    simpa [quiet, Meeting.session?, outcomeGiven, Session.start,
      Relay.clientId_of_client? known] using told
  case holds => exact (books.holder? client.id).symm ▸ holds
  case kept =>
    intro other different
    exact (books.holder? other).trans (kept other different)

namespace Arrived

variable {meeting : Meeting} {id : String}

theorem mem_successes
    (arrived : Arrived server meeting id after) :
    meeting ∈ after.successes id := by
  refine Server.mem_successes.mpr ⟨?_, arrived.presents, ?_⟩
  · rw [arrived.meetings]
    exact List.mem_append_right _ List.mem_cons_self
  · exact Option.isSome_iff_exists.mp arrived.given

theorem succeededFor_iff
    (arrived : Arrived server meeting id after)
    (other : String) :
    meeting.succeededFor other = true ↔ other = id := by
  simp only [Meeting.succeededFor, arrived.presents, arrived.given, Bool.and_true,
    beq_iff_eq, Option.some.injEq]
  exact eq_comm

/-- What was to be told of another session is to be told still. -/
theorem lived_other
    (arrived : Arrived server meeting id after)
    {connection : ConnectionId}
    (other : connection ≠ meeting.connection)
    {events : List Event}
    (lived : server.Lived connection events) :
    after.Lived connection events := by
  have kept {success : Meeting} {id : String} (member : success ∈ server.successes id) :
      success ∈ after.successes id := by
    rw [successes_of_meetings arrived.meetings]
    exact List.mem_append_left _ member
  cases lived with
  | sessionless clientless =>
      refine .sessionless fun earlier member own => ?_
      rcases List.mem_append.mp (arrived.meetings ▸ member) with before | now
      · exact clientless earlier before own
      · exact (other (List.mem_singleton.mp now ▸ own.symm)).elim
  | running success own running =>
      exact .running (kept success) own (arrived.ended ▸ running)
  | ended success own ended =>
      exact .ended (kept success) own (arrived.ended ▸ ended)

end Arrived

/-- Of a connection that there is not, nothing is told. -/
theorem Replayed.life_next
    (replayed : Replayed server) :
    server.life server.nextConnection = [] := by
  have unknown {meeting : Meeting} {id : String} (success : meeting ∈ server.successes id) :
      meeting.connection ≠ server.nextConnection :=
    Nat.ne_of_lt (replayed.coherent.connection_lt (mem_successes.mp success).1)
  have lived := replayed.lived server.nextConnection
  generalize server.life server.nextConnection = events at lived ⊢
  cases lived with
  | sessionless => rfl
  | running success own => exact (unknown success own).elim
  | ended success own => exact (unknown success own).elim

/-- An arrival is told of, and registers its id or reconnects to it. -/
theorem Replayed.arrived
    {meeting : Meeting}
    {id : String}
    (replayed : Replayed server)
    (coherent : Coherent after)
    (arrived : Arrived server meeting id after) :
    Replayed after where
  coherent := coherent
  begun := by
    intro other member given
    rw [arrived.greeted]
    rcases List.mem_append.mp (arrived.meetings ▸ member) with before | now
    · exact List.mem_append_left _ (replayed.begun other before given)
    · cases List.mem_singleton.mp now
      exact List.mem_append_right _ List.mem_cons_self
  standing := by
    intro other
    rw [arrived.told, Event.standing_concat]
    by_cases same : other = id
    · subst same
      simp [arrived.holds]
    · rw [arrived.kept other same, replayed.standing]
      simp [Event.released?, Ne.symm same]
  lived := by
    intro connection
    rw [life_of_events arrived.told]
    by_cases same : connection = meeting.connection
    · subst same
      have running : meeting.connection ∉ after.endedConnections := by
        rw [arrived.ended, arrived.fresh]
        exact replayed.coherent.next_running
      have before := replayed.life_next
      rw [← arrived.fresh] at before
      simp only [before, Event.lifeOf?, ↓reduceIte, List.nil_append]
      exact .running arrived.mem_successes rfl running
    · simp only [Event.lifeOf?, Option.some.injEq, Ne.symm same, ↓reduceIte, List.append_nil]
      exact arrived.lived_other same (replayed.lived connection)
  balanced := by
    intro other
    have before := replayed.balanced other
    rw [registrations_of_meetings arrived.meetings, releases_of_events arrived.told]
    by_cases same : other = id
    · subst same
      simp only [(arrived.succeededFor_iff other).mpr rfl, arrived.holds, Event.released?,
        true_and, reduceCtorEq, ↓reduceIte, Nat.add_zero]
      cases held : server.relay.holder? other with
      | none =>
          rw [if_pos (arrived.registers.mpr held), before, held]
          rfl
      | some client =>
          rw [if_neg (mt arrived.registers.mp (held ▸ nofun)), before, held]
          rfl
    · have unconcerned := mt (arrived.succeededFor_iff other).mp same
      simpa [unconcerned, Event.released?, arrived.kept other same] using before

/-! ## Ends -/

/-- Of a session that runs, its begin was told and nothing else. -/
theorem Replayed.life_running
    (replayed : Replayed server)
    {connection : ConnectionId}
    {session : Session}
    (running : server.session? connection = some session)
    {meeting : Meeting}
    (member : meeting ∈ server.meetings)
    (own : meeting.connection = connection)
    {id : String}
    (presents : meeting.parameters.id = some id) :
    server.life connection = [.connected id connection] := by
  obtain ⟨-, goesOn, of, ofMember, ofOwn, given⟩ := of_session? running
  have lived := replayed.lived connection
  generalize server.life connection = events at lived ⊢
  cases lived with
  | sessionless clientless =>
      rw [clientless of ofMember ofOwn] at given
      cases given
  | running success successOwn =>
      obtain ⟨successMember, successPresents, -⟩ := mem_successes.mp success
      cases replayed.coherent.meeting_unique successMember member (successOwn.trans own.symm)
      cases presents.symm.trans successPresents
      rfl
  | ended _ _ ended => exact (goesOn ended).elim

/-- The end of a session leaves what is to be told of the others. -/
theorem lived_finish_other
    {session : Session}
    {connection : ConnectionId}
    (other : connection ≠ session.connection)
    {events : List Event}
    (lived : server.Lived connection events) :
    (server.finish session).Lived connection events := by
  have meetings := meetings_finish server session
  have successes := successes_of_same_meetings meetings
  have ended :
      connection ∈ (server.finish session).endedConnections ↔
        connection ∈ server.endedConnections := by
    simp [other]
  cases lived with
  | sessionless clientless => exact .sessionless (meetings ▸ clientless)
  | running success own running => exact .running (successes _ ▸ success) own (mt ended.mp running)
  | ended success own gone => exact .ended (successes _ ▸ success) own (ended.mpr gone)

/-- The end of a session is told of, and whether it gave up the id. -/
theorem Replayed.left
    (replayed : Replayed server)
    {connection : ConnectionId}
    {session : Session}
    (running : server.session? connection = some session) :
    Replayed (server.finish session) := by
  obtain ⟨sameConnection, -⟩ := of_session? running
  obtain ⟨meeting, member, id, own, presents, heldNow, told⟩ :=
    replayed.coherent.left running
  obtain ⟨of, ofMember, ofOwn, given⟩ := (of_session? running).2.2
  cases replayed.coherent.meeting_unique ofMember member (ofOwn.trans own.symm)
  have meetings := meetings_finish server session
  have successes := successes_of_same_meetings meetings
  refine {
    coherent := replayed.coherent.finished running
    begun := ?begun
    standing := ?standing
    lived := ?lived
    balanced := ?balanced
  }
  case begun =>
    intro other otherMember otherGiven
    rw [greetedConnections_finish]
    exact replayed.begun other (meetings ▸ otherMember) otherGiven
  case standing =>
    intro other
    rw [told, Event.standing_concat, ← replayed.standing, heldNow]
    by_cases bound : (server.relay.holder? id).bind (·.connection) = some connection
    · by_cases same : other = id
      · simp [same, bound, Event.released?]
      · simp [same, bound, Event.released?, Ne.symm same]
    · simp [bound, Event.released?]
  case lived =>
    intro place
    rw [life_of_events told]
    by_cases same : place = connection
    · subst same
      have gone : place ∈ (server.finish session).endedConnections := by
        simp [sameConnection]
      simp only [replayed.life_running running member own presents, Event.lifeOf?, ↓reduceIte,
        List.singleton_append]
      exact .ended (successes id ▸ mem_successes.mpr ⟨member, presents, _, given⟩) own gone
    · simp only [Event.lifeOf?, Option.some.injEq, Ne.symm same, ↓reduceIte, List.append_nil]
      exact lived_finish_other (sameConnection ▸ same) (replayed.lived place)
  case balanced =>
    intro other
    have before := replayed.balanced other
    rw [registrations, successes, ← registrations, releases_of_events told, before, heldNow]
    by_cases bound : (server.relay.holder? id).bind (·.connection) = some connection
    · by_cases same : other = id
      · have held : (server.relay.holder? id).isSome := by
          obtain ⟨client, held, -⟩ := Option.bind_eq_some_iff.mp bound
          exact Option.isSome_of_eq_some held
        simp [same, bound, held, Event.released?]
      · simp [same, bound, Event.released?, Ne.symm same]
    · simp [bound, Event.released?]

/-! ## Runs -/

theorem Replayed.start
    (settings : Settings) :
    Replayed (Server.start settings) where
  coherent := .start settings
  begun := fun _ member => (List.not_mem_nil member).elim
  standing := by
    intro id
    refine ⟨nofun, ?_⟩
    rintro ⟨earlier, connection, later, split, -⟩
    exact absurd (congrArg List.length split) (by simp [Server.start, Journal.events])
  lived := fun _ => .sessionless fun _ member => (List.not_mem_nil member).elim
  balanced := fun _ => rfl

/-- Where a session is to begin, its begin comes next. -/
theorem of_prompt
    {rest : List Act}
    (prompt : server.prompt (act :: rest) = true)
    (stepped : server.step? act = some after) :
    after.prompt rest = true ∧
      ∀ beginning,
        server.beginning? act = some beginning →
        ∃ later, rest = beginning :: later := by
  simp only [Server.prompt, Bool.and_eq_true, stepped, Option.all_some] at prompt
  refine ⟨prompt.2, fun beginning begins => ?_⟩
  have next : rest.head? = some beginning := by
    simpa [begins] using prompt.1
  exact List.head?_eq_some_iff.mp next

/-- The next act, or the next arrival, keeps the replay and leaves less to be done. -/
theorem Replayed.forward
    {rest : List Act}
    {last : Server}
    (replayed : Replayed server)
    (prompt : server.prompt (act :: rest) = true)
    (ran : server.run? (act :: rest) = some last) :
    ∃ next later,
      Replayed next ∧
        next.prompt later = true ∧
        next.run? later = some last ∧
        later.length ≤ rest.length := by
  obtain ⟨next, stepped, ranOn⟩ := @step?_of_run? _ _ _ [] _ _ ran rfl
  obtain ⟨promptRest, follows⟩ := of_prompt prompt stepped
  cases begins : server.beginning? act with
  | some beginning =>
      obtain ⟨later, rfl⟩ := follows beginning begins
      obtain ⟨address, parameters, rfl⟩ := of_beginning? begins
      cases stepped
      obtain ⟨begun, steppedOn, ranLater⟩ := @step?_of_run? _ _ _ [] _ _ ranOn rfl
      obtain ⟨meeting, id, arrived⟩ := replayed.coherent.arrived begins steppedOn
      have coherent := (replayed.coherent.dialed address parameters).step steppedOn
      exact ⟨begun, later, replayed.arrived coherent arrived,
        (of_prompt promptRest steppedOn).1, ranLater, Nat.le_succ _⟩
  | none =>
      refine ⟨next, rest, ?_, promptRest, ranOn, Nat.le_refl _⟩
      by_cases ending : ∃ connection, act = .finish connection
      · obtain ⟨connection, rfl⟩ := ending
        obtain ⟨session, running, rfl⟩ := Option.map_eq_some_iff.mp stepped
        exact replayed.left running
      · exact replayed.idle (replayed.coherent.step stepped)
          (replayed.idle_of_step? stepped begins fun connection same =>
            ending ⟨connection, same⟩)

/-- Prompt acts keep the replay. -/
theorem Replayed.run
    {acts : List Act}
    (replayed : Replayed server)
    (prompt : server.prompt acts = true)
    (ran : server.run? acts = some after) :
    Replayed after := by
  -- An arrival takes two acts, so the induction is on how many there are.
  induction length : acts.length using Nat.strongRecOn generalizing server acts with
  | ind _ inductionHypothesis =>
      subst length
      cases acts with
      | nil =>
          cases ran
          exact replayed
      | cons act rest =>
          obtain ⟨next, later, replayedNext, promptLater, ranLater, fewer⟩ :=
            replayed.forward prompt ran
          exact inductionHypothesis later.length (Nat.lt_succ_of_le fewer) replayedNext
            promptLater ranLater rfl

/--
The events replay to the directory.  In a run in which every session begins as soon as its
handshake is over, exactly those ids are registered that were announced and not given up since.
Of every session its begin is told once, and once it has ended, its end is told once, after the
begin and with its own connection.  How often an id was registered and how often it was given up
differ by one while it is registered, and not otherwise.
-/
theorem events_replay
    {acts : List Act}
    (prompt : (start settings).prompt acts = true)
    (ran : (start settings).run? acts = some server) :
    (∀ id,
        id ∈ server.relay.directory.ids ↔ Event.Standing server.journal.events id) ∧
      (∀ connection, server.Lived connection (server.life connection)) ∧
      ∀ id,
        (server.registrations id).length =
          server.releases id + if id ∈ server.relay.directory.ids then 1 else 0 := by
  have replayed := (Replayed.start settings).run prompt ran
  have held (id : String) :
      (server.relay.holder? id).isSome ↔ id ∈ server.relay.directory.ids := by
    rw [← Option.ne_none_iff_isSome, ne_eq,
      replayed.coherent.holder?_eq_none_iff_not_mem, Decidable.not_not]
  refine ⟨fun id => ?_, replayed.lived, fun id => ?_⟩
  · rw [← held, replayed.standing]
  · rw [replayed.balanced]
    simp only [held]

/-- An id is registered, reconnected, left alone by the end of the first session, given up by the
end of the second, and registered again under another token. -/
def reregistering : List Act :=
  [.dial none ⟨some "a", some "t1", some "peerjs"⟩, .greet 0,
    .dial none ⟨some "a", some "t1", some "peerjs"⟩, .greet 1,
    .finish 0, .finish 1,
    .dial none ⟨some "a", some "t2", some "peerjs"⟩, .greet 2]

theorem events_replay_of_reregistering :
    ∃ server,
      (start {}).prompt reregistering = true ∧
        (start {}).run? reregistering = some server ∧
        Event.Standing server.journal.events "a" ∧
        server.Lived 0 (server.life 0) ∧
        (server.registrations "a").length = 2 ∧
        server.releases "a" = 1 := by
  have prompt : (start {}).prompt reregistering = true := by decide
  obtain ⟨standing, lived, balanced⟩ := @events_replay {} _ reregistering prompt rfl
  refine ⟨_, prompt, rfl, (standing "a").mp (by decide), lived 0, rfl, ?_⟩
  have counted := balanced "a"
  rw [if_pos (by decide)] at counted
  exact (Nat.succ.inj counted).symm

end Server

end SignalRelay
