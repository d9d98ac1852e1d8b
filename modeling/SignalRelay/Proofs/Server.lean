import SignalRelay.Proofs.Books

namespace SignalRelay

/-!
# Runs of a server

Many things happen to a relay in an order that nobody controls.  A server is a relay with
what has happened to it.  One act at a time is done to it, and each is either what
one task does between two places where another may come in, or one end of such a task.

More orders are allowed than a relay shows.  A session may read before its connection was
greeted, and a writer may stop whenever it likes.  What holds of every run holds all the
more of those that occur; that whatever is done to a hub is such a run, `Hub.led_by_server` says.
-/

/-- A handshake: the connection, what it presented, and how that ended. -/
structure Meeting where
  connection : ConnectionId
  parameters : HandshakeParameters
  outcome : HandshakeOutcome
  deriving Repr, DecidableEq

namespace Meeting

/-- Whether an id was given to the connection. -/
def succeededFor (id : String) (meeting : Meeting) : Bool :=
  meeting.parameters.id == some id && meeting.outcome.client?.isSome

/-- Whether the id was registered by the handshake. -/
def isRegistration (meeting : Meeting) : Bool :=
  match meeting.outcome with
  | .registered _ => true
  | _ => false

/-- Whether the id was registered before the handshake. -/
def isReconnection (meeting : Meeting) : Bool :=
  match meeting.outcome with
  | .reconnected _ => true
  | _ => false

/-- The session that follows a handshake, if one follows. -/
def session? (meeting : Meeting) : Option Session :=
  meeting.outcome.client?.map fun client => .start client meeting.connection

end Meeting

/-- What can be done to a server. -/
inductive Act where
  /-- A fresh connection shakes hands. -/
  | dial : Option SocketAddress → HandshakeParameters → Act
  /-- A connection is told how its handshake ended; its session begins if it has one. -/
  | greet : ConnectionId → Act
  /-- The connection is closed whose id was found to be taken. -/
  | expire : ConnectionId → Act
  /-- A session reads a frame. -/
  | frame : ConnectionId → Octets → Act
  /-- A request to relay a message arrives. -/
  | request : RelayRequest → Act
  /-- The read loop of a session ends. -/
  | finish : ConnectionId → Act
  /-- The writer of a connection writes what comes next. -/
  | write : ConnectionId → Act
  /-- The writer of a connection stops. -/
  | abandon : ConnectionId → Act
  deriving Repr, DecidableEq

namespace Act

/-- The connection that an act greets. -/
def greeted? : Act → Option ConnectionId
  | .greet connection => some connection
  | _ => none

/-- The connection whose grace an act ends. -/
def expired? : Act → Option ConnectionId
  | .expire connection => some connection
  | _ => none

/-- The connection whose writer an act stops. -/
def abandoned? : Act → Option ConnectionId
  | .abandon connection => some connection
  | _ => none

end Act

/-- What has happened to a server. -/
inductive Happening where
  | met : Meeting → Happening
  | greeted : ConnectionId → Happening
  | expired : ConnectionId → Happening
  | read : Session → Octets → Happening
  | requested : RelayRequest → Happening
  | ended : Session → Happening
  | written : ConnectionId → Outgoing → Happening
  | abandoned : ConnectionId → Happening
  deriving Repr, DecidableEq

namespace Happening

/-- The handshake that a happening is. -/
def meeting? : Happening → Option Meeting
  | .met meeting => some meeting
  | _ => none

/-- The connection that was greeted. -/
def greeted? : Happening → Option ConnectionId
  | .greeted connection => some connection
  | _ => none

/-- The connection whose grace was over. -/
def expired? : Happening → Option ConnectionId
  | .expired connection => some connection
  | _ => none

/-- The connection whose session ended. -/
def ended? : Happening → Option ConnectionId
  | .ended session => some session.connection
  | _ => none

/-- The connection whose writer stopped. -/
def abandoned? : Happening → Option ConnectionId
  | .abandoned connection => some connection
  | _ => none

/-- The connection whose writer wrote a closing. -/
def closed? : Happening → Option ConnectionId
  | .written connection .close => some connection
  | _ => none

end Happening

/-- A relay with what has happened to it and what it told, both in order. -/
structure Server where
  relay : Relay
  history : List Happening
  journal : Journal
  deriving Repr

namespace Server

/-- A server that nothing has happened to. -/
def start (settings : Settings) : Server :=
  ⟨.start settings, [], []⟩

/-! ## What the history tells -/

/-- All handshakes. -/
def meetings (server : Server) : List Meeting :=
  server.history.filterMap Happening.meeting?

/-- The connections that were greeted. -/
def greetedConnections (server : Server) : List ConnectionId :=
  server.history.filterMap Happening.greeted?

/-- The connections whose grace was over. -/
def expiredConnections (server : Server) : List ConnectionId :=
  server.history.filterMap Happening.expired?

/-- The connections whose session has ended. -/
def endedConnections (server : Server) : List ConnectionId :=
  server.history.filterMap Happening.ended?

/-- The connections whose writer stopped. -/
def abandonedConnections (server : Server) : List ConnectionId :=
  server.history.filterMap Happening.abandoned?

/-- The connections whose writer wrote a closing. -/
def closedConnections (server : Server) : List ConnectionId :=
  server.history.filterMap Happening.closed?

/-- The handshake of a connection. -/
def meeting? (server : Server) (connection : ConnectionId) : Option Meeting :=
  server.meetings.find? (·.connection == connection)

/-- The handshakes that gave an id to a connection. -/
def successes (server : Server) (id : String) : List Meeting :=
  server.meetings.filter (·.succeededFor id)

/-- The most recent handshake that gave an id to a connection. -/
def latest? (server : Server) (id : String) : Option Meeting :=
  (server.successes id).getLast?

/-- The most recent handshake that registered an id. -/
def lastRegistration? (server : Server) (id : String) : Option Meeting :=
  ((server.successes id).filter (·.isRegistration)).getLast?

/-- The session that is running on a connection. -/
def session? (server : Server) (connection : ConnectionId) : Option Session :=
  if connection ∈ server.endedConnections then
    none
  else
    (server.meeting? connection).bind Meeting.session?

/-- The handshake that a connection has still to be told of. -/
def ungreeted? (server : Server) (connection : ConnectionId) : Option Meeting :=
  if connection ∈ server.greetedConnections then
    none
  else
    server.meeting? connection

/-- Whether a connection is still to be closed because its id was taken. -/
def awaitsExpiry (server : Server) (connection : ConnectionId) : Bool :=
  (server.meeting? connection).any (·.outcome == .idTaken) &&
    decide (connection ∈ server.greetedConnections) &&
    decide (connection ∉ server.expiredConnections)

/-! ## What is done to a server -/

/-- The server after something happened. -/
def advance (server : Server) (happening : Happening) (result : Relay × Journal) :
    Server where
  relay := result.1
  history := server.history ++ [happening]
  journal := server.journal ++ result.2

/-- The number of the connection that comes next. -/
def nextConnection (server : Server) : ConnectionId :=
  server.relay.connections.length

/-- The relay after a fresh connection shook hands, and how that ended. -/
def met (server : Server) (address : Option SocketAddress)
    (parameters : HandshakeParameters) : Relay × Journal × HandshakeOutcome :=
  (server.relay.openConnection address).1.meet parameters server.nextConnection

/-- A fresh connection shakes hands. -/
def dial (server : Server) (address : Option SocketAddress)
    (parameters : HandshakeParameters) : Server :=
  let (relay, journal, outcome) := server.met address parameters
  server.advance (.met ⟨server.nextConnection, parameters, outcome⟩) (relay, journal)

/-- A connection is told how its handshake ended. -/
def greet (server : Server) (meeting : Meeting) : Server :=
  let (relay, journal) := server.relay.greet meeting.connection meeting.outcome
  server.advance (.greeted meeting.connection)
    (relay, journal ++ meeting.session?.toList.flatMap relay.beginSession)

/-- A session reads a frame. -/
def frame (server : Server) (session : Session) (octets : Octets) : Server :=
  server.advance (.read session octets)
    (server.relay.readFrame session.client session.connection octets)

/-- A request is carried out. -/
def request (server : Server) (request : RelayRequest) : Server :=
  let (relay, journal, _) := server.relay.relayRequest request
  server.advance (.requested request) (relay, journal)

/-- A session ends. -/
def finish (server : Server) (session : Session) : Server :=
  server.advance (.ended session) (server.relay.endSession session)

/-- What the writer of a connection writes next, and the outbox after that.  Behind a closing
nothing is taken any more, but more may be queued until the writer stops. -/
def writing? (server : Server) (connection : ConnectionId) : Option (Outgoing × Outbox) :=
  let outbox := server.relay.outbox connection
  if outbox.receiving && decide (connection ∉ server.closedConnections) then
    outbox.next?
  else
    none

/-- The outbox of a connection is replaced. -/
def replaceOutbox (server : Server) (happening : Happening) (connection : ConnectionId)
    (outbox : Outbox) : Server :=
  server.advance happening (server.relay.withOutbox connection outbox, [])

/-- Do one thing to a server, if it can be done. -/
def step? (server : Server) : Act → Option Server
  | .dial address parameters => some (server.dial address parameters)
  | .greet connection => (server.ungreeted? connection).map server.greet
  | .expire connection =>
      if server.awaitsExpiry connection then
        some (server.advance (.expired connection)
          (server.relay.closeConnection connection, []))
      else
        none
  | .frame connection octets =>
      (server.session? connection).map fun session => server.frame session octets
  | .request request => some (server.request request)
  | .finish connection => (server.session? connection).map server.finish
  | .write connection =>
      (server.writing? connection).map fun (item, outbox) =>
        server.replaceOutbox (.written connection item) connection outbox
  | .abandon connection =>
      some (server.replaceOutbox (.abandoned connection) connection
        (server.relay.outbox connection).discard)

/-- Do one thing after another to a server. -/
def run? : Server → List Act → Option Server
  | server, [] => some server
  | server, act :: rest =>
      match server.step? act with
      | none => none
      | some after => after.run? rest

/-- The servers that runs lead to. -/
def Reachable (settings : Settings) (server : Server) : Prop :=
  ∃ acts, (start settings).run? acts = some server

/-! ## Histories -/

/-- A handshake that a connection has still to be told of is its own. -/
theorem of_ungreeted?
    {server : Server}
    {connection : ConnectionId}
    {meeting : Meeting}
    (ungreeted : server.ungreeted? connection = some meeting) :
    meeting ∈ server.meetings ∧
      meeting.connection = connection ∧
      connection ∉ server.greetedConnections := by
  unfold ungreeted? at ungreeted
  split at ungreeted
  · cases ungreeted
  · next notGreeted =>
      exact ⟨List.mem_of_find?_eq_some ungreeted,
        by simpa using List.find?_some ungreeted, notGreeted⟩

/-- A connection waits for its closing after it was told that its id is taken. -/
theorem of_awaitsExpiry
    {server : Server}
    {connection : ConnectionId}
    (awaits : server.awaitsExpiry connection = true) :
    (∃ meeting ∈ server.meetings,
        meeting.connection = connection ∧ meeting.outcome = .idTaken) ∧
      connection ∈ server.greetedConnections ∧
      connection ∉ server.expiredConnections := by
  simp only [awaitsExpiry, Bool.and_eq_true, decide_eq_true_eq, Option.any_eq_true] at awaits
  obtain ⟨⟨⟨meeting, found, taken⟩, greeted⟩, unexpired⟩ := awaits
  exact ⟨⟨meeting, List.mem_of_find?_eq_some found,
    by simpa using List.find?_some found, by simpa using taken⟩, greeted, unexpired⟩

/-- What happens when an act is done. -/
inductive Happens (server : Server) : Act → Happening → Prop where
  | met
      {address : Option SocketAddress}
      {parameters : HandshakeParameters}
      {outcome : HandshakeOutcome} :
      Happens server (.dial address parameters)
        (.met ⟨server.nextConnection, parameters, outcome⟩)
  | greeted
      {connection : ConnectionId} :
      Happens server (.greet connection) (.greeted connection)
  | expired
      {connection : ConnectionId} :
      Happens server (.expire connection) (.expired connection)
  | read
      {connection : ConnectionId}
      {session : Session}
      {octets : Octets}
      (running : server.session? connection = some session) :
      Happens server (.frame connection octets) (.read session octets)
  | requested
      {request : RelayRequest} :
      Happens server (.request request) (.requested request)
  | ended
      {connection : ConnectionId}
      {session : Session}
      (running : server.session? connection = some session) :
      Happens server (.finish connection) (.ended session)
  | written
      {connection : ConnectionId}
      {item : Outgoing}
      {rest : Outbox}
      (writing : server.writing? connection = some (item, rest)) :
      Happens server (.write connection) (.written connection item)
  | abandoned
      {connection : ConnectionId} :
      Happens server (.abandon connection) (.abandoned connection)

/-- One act adds to the history what happens when it is done. -/
theorem happens_of_step?
    {server after : Server}
    {act : Act}
    (stepped : server.step? act = some after) :
    ∃ happening,
      after.history = server.history ++ [happening] ∧ server.Happens act happening := by
  cases act with
  | dial =>
      cases stepped
      exact ⟨_, rfl, .met⟩
  | greet connection =>
      obtain ⟨meeting, ungreeted, rfl⟩ := Option.map_eq_some_iff.mp stepped
      obtain ⟨-, rfl, -⟩ := of_ungreeted? ungreeted
      exact ⟨_, rfl, .greeted⟩
  | expire connection =>
      simp only [step?, Option.ite_none_right_eq_some, Option.some.injEq] at stepped
      obtain ⟨-, rfl⟩ := stepped
      exact ⟨_, rfl, .expired⟩
  | frame =>
      obtain ⟨session, running, rfl⟩ := Option.map_eq_some_iff.mp stepped
      exact ⟨_, rfl, .read running⟩
  | request =>
      cases stepped
      exact ⟨_, rfl, .requested⟩
  | finish =>
      obtain ⟨session, running, rfl⟩ := Option.map_eq_some_iff.mp stepped
      exact ⟨_, rfl, .ended running⟩
  | write =>
      obtain ⟨⟨item, rest⟩, writing, rfl⟩ := Option.map_eq_some_iff.mp stepped
      exact ⟨_, rfl, .written writing⟩
  | abandon =>
      cases stepped
      exact ⟨_, rfl, .abandoned⟩

/-- One act adds one happening to the history. -/
theorem history_of_step?
    {server after : Server}
    {act : Act}
    (stepped : server.step? act = some after) :
    ∃ happening,
      after.history = server.history ++ [happening] ∧
        happening.greeted? = act.greeted? ∧
        happening.expired? = act.expired? ∧
        happening.abandoned? = act.abandoned? := by
  obtain ⟨happening, grown, happens⟩ := happens_of_step? stepped
  exact ⟨happening, grown, by cases happens <;> exact ⟨rfl, rfl, rfl⟩⟩

section Grown

variable {server after : Server} {act : Act}

theorem meetings_of_step?
    (stepped : server.step? act = some after) :
    server.meetings <+: after.meetings := by
  obtain ⟨happening, grown, -⟩ := history_of_step? stepped
  rw [meetings, meetings, grown, List.filterMap_append]
  exact List.prefix_append _ _

theorem meetings_of_undialed
    (stepped : server.step? act = some after)
    (undialed : ∀ address parameters, act ≠ .dial address parameters) :
    after.meetings = server.meetings := by
  obtain ⟨happening, grown, happens⟩ := happens_of_step? stepped
  rw [meetings, grown, List.filterMap_append, ← meetings]
  cases happens with
  | met => exact (undialed _ _ rfl).elim
  | greeted | expired | read | requested | ended | written | abandoned =>
      exact List.append_nil _

theorem greetedConnections_of_step?
    (stepped : server.step? act = some after) :
    after.greetedConnections = server.greetedConnections ++ act.greeted?.toList := by
  obtain ⟨happening, grown, greeted, -, -⟩ := history_of_step? stepped
  rw [greetedConnections, grown, List.filterMap_append, ← greeted]
  cases found : happening.greeted? <;> simp [greetedConnections, found]

theorem expiredConnections_of_step?
    (stepped : server.step? act = some after) :
    after.expiredConnections = server.expiredConnections ++ act.expired?.toList := by
  obtain ⟨happening, grown, -, expired, -⟩ := history_of_step? stepped
  rw [expiredConnections, grown, List.filterMap_append, ← expired]
  cases found : happening.expired? <;> simp [expiredConnections, found]

theorem abandonedConnections_of_step?
    (stepped : server.step? act = some after) :
    after.abandonedConnections = server.abandonedConnections ++ act.abandoned?.toList := by
  obtain ⟨happening, grown, -, -, abandoned⟩ := history_of_step? stepped
  rw [abandonedConnections, grown, List.filterMap_append, ← abandoned]
  cases found : happening.abandoned? <;> simp [abandonedConnections, found]

/-- Only a writer that writes a closing adds to the connections whose writer did. -/
theorem closedConnections_of_step?
    (stepped : server.step? act = some after) :
    after.closedConnections = server.closedConnections ∨
      ∃ connection rest,
        act = .write connection ∧
          server.writing? connection = some (.close, rest) ∧
          after.closedConnections = server.closedConnections ++ [connection] := by
  obtain ⟨happening, grown, happens⟩ := happens_of_step? stepped
  rw [closedConnections, grown, List.filterMap_append]
  cases happens with
  | @written connection item rest writing =>
      cases item with
      | text text => exact .inl (List.append_nil _)
      | close => exact .inr ⟨connection, rest, rfl, writing, rfl⟩
  | met | greeted | expired | read | requested | ended | abandoned =>
      exact .inl (List.append_nil _)

end Grown

/-! ## Runs -/

/-- A run is a run followed by a run. -/
theorem run?_append
    (server : Server)
    (first later : List Act) :
    server.run? (first ++ later) =
      (server.run? first).bind (·.run? later) := by
  induction first generalizing server with
  | nil =>
      rfl
  | cons act rest inductionHypothesis =>
      simp only [List.cons_append, run?]
      cases server.step? act with
      | none =>
          rfl
      | some after =>
          exact inductionHypothesis after

/-- Each act of a run can be done where it is. -/
theorem step?_of_run?
    {first middle server : Server}
    {earlier later : List Act}
    {act : Act}
    (ran : first.run? (earlier ++ act :: later) = some server)
    (led : first.run? earlier = some middle) :
    ∃ after, middle.step? act = some after ∧ after.run? later = some server := by
  rw [run?_append, led, Option.bind_some, run?] at ran
  split at ran
  · cases ran
  · next after stepped => exact ⟨after, stepped, ran⟩

/-- What holds of no acts and survives one more of them holds of every run. -/
theorem run_induction
    {first : Server}
    {motive : List Act → Server → Prop}
    (atStart : motive [] first)
    (preserved :
      ∀ {acts server act after},
        first.run? acts = some server →
        motive acts server →
        server.step? act = some after →
        motive (acts ++ [act]) after)
    {acts : List Act}
    {server : Server}
    (ran : first.run? acts = some server) :
    motive acts server := by
  have carried :
      ∀ (later earlier : List Act) {middle : Server},
        first.run? earlier = some middle →
        motive earlier middle →
        middle.run? later = some server →
        motive (earlier ++ later) server := by
    intro later
    induction later with
    | nil =>
        intro earlier middle _ held ended
        cases ended
        simpa using held
    | cons act rest inductionHypothesis =>
        intro earlier middle led held ended
        cases stepped : middle.step? act with
        | none =>
            simp [run?, stepped] at ended
        | some after =>
            have ledOn : first.run? (earlier ++ [act]) = some after := by
              simp [run?_append, led, run?, stepped]
            simpa using
              inductionHypothesis (earlier ++ [act]) ledOn
                (preserved led held stepped)
                (by simpa [run?, stepped] using ended)
  exact carried acts [] rfl atStart ran

/-- A run only adds to the history. -/
theorem history_of_run?
    {server later : Server}
    {acts : List Act}
    (ran : server.run? acts = some later) :
    server.history <+: later.history := by
  refine run_induction (motive := fun _ reached => server.history <+: reached.history)
    (List.prefix_refl _) ?_ ran
  intro _ _ _ _ _ kept stepped
  obtain ⟨happening, grown, -⟩ := history_of_step? stepped
  rw [grown]
  exact kept.trans (List.prefix_append _ _)

namespace Reachable

variable {settings : Settings}

/-- Before anything happens there is a run without acts. -/
theorem start : Reachable settings (Server.start settings) :=
  ⟨[], rfl⟩

/-- One more act leads to a reachable server. -/
theorem step
    {server after : Server}
    {act : Act}
    (reachable : Reachable settings server)
    (stepped : server.step? act = some after) :
    Reachable settings after := by
  obtain ⟨acts, led⟩ := reachable
  refine ⟨acts ++ [act], ?_⟩
  simp [run?_append, led, run?, stepped]

/-- A run from a reachable server leads to reachable servers. -/
theorem run
    {server later : Server}
    {acts : List Act}
    (reachable : Reachable settings server)
    (ran : server.run? acts = some later) :
    Reachable settings later := by
  obtain ⟨first, led⟩ := reachable
  exact ⟨first ++ acts, by simp [run?_append, led, ran]⟩

/-- What holds at the start and survives every act holds of every reachable server. -/
theorem induction
    {motive : Server → Prop}
    (atStart : motive (Server.start settings))
    (preserved :
      ∀ {server act after},
        Reachable settings server →
        motive server →
        server.step? act = some after →
        motive after)
    {server : Server}
    (reachable : Reachable settings server) :
    motive server := by
  obtain ⟨acts, led⟩ := reachable
  refine run_induction (motive := fun _ server => motive server) atStart ?_ led
  intro acts server act after ran held stepped
  exact preserved ⟨acts, ran⟩ held stepped

end Reachable

end Server

end SignalRelay
