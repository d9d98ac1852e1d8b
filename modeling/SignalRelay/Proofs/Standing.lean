import SignalRelay.Proofs.Notices
import SignalRelay.Proofs.Provenance

namespace SignalRelay

/-!
# How connections stand

How a connection stands with a server is what decides which acts can be done for it: the session
that is running on it, whether its outbox is open, whether its writer wrote a closing, and whether
it has still to be closed because its id was taken.  An act changes how its own connection stands
and no other, whatever it queues there (`Server.standing_of_step?`,
`Server.standing_of_elsewhere`).  So acts for one connection can follow one another without regard
to the rest (`Server.LedOn`).
-/

/-- How a connection stands with a server. -/
structure Standing where
  session : Option Session
  /-- Whether somebody takes from the outbox. -/
  receiving : Bool
  /-- Whether the writer wrote a closing. -/
  closed : Bool
  /-- Whether the connection has still to be closed because its id was taken. -/
  awaited : Bool

namespace Act

/-- Whether an act is done by what serves a connection once that was greeted. -/
def serves (connection : ConnectionId) : Act → Bool
  | .expire other | .frame other _ | .finish other | .write other | .abandon other =>
      other == connection
  | .dial .. | .greet _ | .request _ => false

theorem undialed_of_serves
    {act : Act}
    {connection : ConnectionId}
    (serves : act.serves connection = true)
    (address : Option SocketAddress)
    (parameters : HandshakeParameters) :
    act ≠ .dial address parameters := by
  rintro rfl
  cases serves

/-- What serves a connection works on no other. -/
theorem worksOn?_ne_of_serves
    {act : Act}
    {connection other : ConnectionId}
    (serves : act.serves connection = true)
    (different : other ≠ connection) :
    act.worksOn? ≠ some other := by
  cases act with
  | dial | greet | request => cases serves
  | frame => exact (Option.some_ne_none _).symm
  | expire | finish | write | abandon =>
      simp only [Act.serves, beq_iff_eq] at serves
      simpa [worksOn?, serves] using different.symm

end Act

namespace Server

variable {settings : Settings} {server after : Server} {act : Act} {connection : ConnectionId}

/-- How a connection stands with a server. -/
def standing (server : Server) (connection : ConnectionId) : Standing where
  session := server.session? connection
  receiving := (server.relay.outbox connection).receiving
  closed := decide (connection ∈ server.closedConnections)
  awaited := server.awaitsExpiry connection

/-! ## What an act changes -/

/-- A connection that was opened keeps its handshake. -/
theorem meeting?_of_step?
    (coherent : Coherent server)
    (stepped : server.step? act = some after)
    (known : connection < server.nextConnection) :
    after.meeting? connection = server.meeting? connection := by
  obtain ⟨meeting, member, own⟩ := coherent.exists_meeting known
  have present : (server.meeting? connection).isSome :=
    List.find?_isSome.mpr ⟨meeting, member, by simpa using own⟩
  obtain ⟨first, found⟩ := Option.isSome_iff_exists.mp present
  obtain ⟨more, grown⟩ := meetings_of_step? stepped
  rw [meeting?, ← grown, List.find?_append, ← meeting?, found, Option.some_or]

/-- Only a writer that stops closes an outbox. -/
theorem receiving_of_step?
    (stepped : server.step? act = some after)
    (known : connection < server.nextConnection) :
    (after.relay.outbox connection).receiving =
      ((server.relay.outbox connection).receiving && act != .abandon connection) := by
  have step := outboxStep_of_step? stepped connection
  generalize after.relay.outbox connection = outbox at step ⊢
  cases step with
  | kept elsewhere =>
      have goesOn : act ≠ .abandon connection := by
        rintro rfl
        exact elsewhere rfl
      simp [goesOn]
  | relayed relays reaches =>
      cases relays <;> exact (Bool.and_true _).symm
  | opened fresh => exact (Nat.ne_of_lt known fresh).elim
  | greeted ungreeted => exact (Outbox.receiving_greeted ..).trans (Bool.and_true _).symm
  | expired | finished => exact (Outbox.receiving_close _).trans (Bool.and_true _).symm
  | written writing =>
      exact (Outbox.receiving_of_next? (of_writing? writing).2.2).trans (Bool.and_true _).symm
  | abandoned => simp [Outbox.discard]

/-- What an act makes of a connection that was opened, unless it greets that. -/
theorem standing_of_step?
    (coherent : Coherent server)
    (stepped : server.step? act = some after)
    (known : connection < server.nextConnection)
    (ungreeting : act ≠ .greet connection) :
    after.standing connection = {
      session := if act = .finish connection then none else server.session? connection
      receiving := (server.relay.outbox connection).receiving && act != .abandon connection
      closed := decide (connection ∈ server.closedConnections ∨
        act = .write connection ∧ (server.writing? connection).any (·.1 == .close) = true)
      awaited := server.awaitsExpiry connection && act != .expire connection
    } := by
  obtain ⟨happening, grown, happens⟩ := happens_of_step? stepped
  have met := meeting?_of_step? coherent stepped known
  have mem (project : Happening → Option ConnectionId) :
      connection ∈ after.history.filterMap project ↔
        connection ∈ server.history.filterMap project ∨
          project happening = some connection := by
    simp [grown]
  have ended : happening.ended? = some connection ↔ act = .finish connection := by
    cases happens with
    | ended running => simp [Happening.ended?, (of_session? running).1]
    | _ => simp [Happening.ended?]
  have greeted : happening.greeted? ≠ some connection := by
    cases happens with
    | greeted => simpa [Happening.greeted?] using ungreeting
    | _ => simp [Happening.greeted?]
  have expired : happening.expired? = some connection ↔ act = .expire connection := by
    cases happens <;> simp [Happening.expired?]
  have closed : happening.closed? = some connection ↔
      act = .write connection ∧ (server.writing? connection).any (·.1 == .close) = true := by
    cases happens with
    | @written _ item rest writing =>
        cases item with
        | text text =>
            simp only [Happening.closed?, reduceCtorEq, false_iff, not_and]
            rintro ⟨⟩
            simp [writing]
        | close =>
            simp only [Happening.closed?, Option.some.injEq, Act.write.injEq, iff_self_and]
            rintro rfl
            simp [writing]
    | _ => simp [Happening.closed?]
  simp only [standing, Standing.mk.injEq]
  refine ⟨?_, receiving_of_step? stepped known, ?_, ?_⟩
  · simp only [session?, endedConnections, mem, ended, met]
    by_cases finishes : act = .finish connection <;> simp [finishes]
  · refine decide_eq_decide.mpr ?_
    simp only [closedConnections, mem, closed]
  · simp only [awaitsExpiry, met, greetedConnections, expiredConnections, mem, greeted, expired]
    by_cases expires : act = .expire connection <;> simp [expires]

/-- An act leaves a connection as it stands, unless it works on its outbox. -/
theorem standing_of_elsewhere
    (coherent : Coherent server)
    (stepped : server.step? act = some after)
    (known : connection < server.nextConnection)
    (elsewhere : act.worksOn? ≠ some connection) :
    after.standing connection = server.standing connection := by
  have other (work : Act) (works : work.worksOn? = some connection) : act ≠ work := by
    rintro rfl
    exact elsewhere works
  rw [standing_of_step? coherent stepped known (other _ rfl)]
  simp [standing, other (.finish connection) rfl, other (.abandon connection) rfl,
    other (.write connection) rfl, other (.expire connection) rfl]

/-- Only a handshake opens a connection. -/
theorem nextConnection_of_undialed
    (coherent : Coherent server)
    (stepped : server.step? act = some after)
    (undialed : ∀ address parameters, act ≠ .dial address parameters) :
    after.nextConnection = server.nextConnection := by
  rw [← coherent.length_meetings, ← (coherent.step stepped).length_meetings,
    meetings_of_undialed stepped undialed]

/-- Nothing has happened to the connection that comes next. -/
theorem next_unused
    (reachable : Reachable settings server) :
    (∀ meeting ∈ server.meetings, meeting.connection ≠ server.nextConnection) ∧
      server.nextConnection ∉ server.greetedConnections ∧
      server.nextConnection ∉ server.endedConnections ∧
      server.nextConnection ∉ server.closedConnections ∧
      server.nextConnection ∉ server.expiredConnections := by
  have coherent := Coherent.of_reachable reachable
  have fresh : ∀ meeting ∈ server.meetings, meeting.connection ≠ server.nextConnection :=
    fun meeting member => Nat.ne_of_lt (coherent.connection_lt member)
  have ungreeted : server.nextConnection ∉ server.greetedConnections := by
    intro greeted
    obtain ⟨meeting, member, own⟩ := meeting_of_greeted reachable _ greeted
    exact fresh meeting member own
  exact ⟨fresh, ungreeted,
    fun ended => Nat.lt_irrefl _ (coherent.endedKnown _ ended),
    fun closed => Nat.lt_irrefl _ (opened_of_closed reachable _ closed),
    fun expired => ungreeted (idTaken_of_expired reachable _ expired).1⟩

/-! ## Acts that follow one another -/

/-- The outcome of the handshake of the connection that comes next. -/
def nextMeeting (server : Server) (address : Option SocketAddress)
    (parameters : HandshakeParameters) : Meeting :=
  ⟨server.nextConnection, parameters, (server.met address parameters).2.2⟩

/-- A connection that shakes hands and is greeted at once. -/
theorem standing_of_greeted
    (reachable : Reachable settings server)
    (address : Option SocketAddress)
    (parameters : HandshakeParameters) :
    let meeting := server.nextMeeting address parameters
    let dialed := server.dial address parameters
    dialed.step? (.greet server.nextConnection) = some (dialed.greet meeting) ∧
      (dialed.greet meeting).standing server.nextConnection =
        ⟨meeting.session?, true, false, meeting.outcome == .idTaken⟩ := by
  intro meeting dialed
  obtain ⟨fresh, ungreeted, unended, unclosed, unexpired⟩ := next_unused reachable
  have met : dialed.meeting? server.nextConnection = some meeting := by
    have grown : dialed.meetings = server.meetings ++ [meeting] := meetings_advance ..
    have unknown : server.meetings.find? (·.connection == server.nextConnection) = none :=
      List.find?_eq_none.mpr fun earlier member => by simpa using fresh earlier member
    rw [meeting?, grown, List.find?_append, unknown, Option.none_or]
    simp [meeting, nextMeeting]
  have stepped : dialed.step? (.greet server.nextConnection) = some (dialed.greet meeting) := by
    have untold : server.nextConnection ∉ dialed.greetedConnections := by
      simpa [dialed, dial, Happening.greeted?] using ungreeted
    rw [step?, ungreeted?, if_neg untold, met]
    rfl
  refine ⟨stepped, ?_⟩
  have outbox : (dialed.greet meeting).relay.outbox server.nextConnection =
      Outbox.empty.greeted meeting.outcome := by
    have opened : dialed.relay.outbox server.nextConnection = .empty :=
      (outbox_dial ..).trans (if_pos rfl)
    rw [← opened]
    exact Relay.outbox_greet_same ..
  have kept : (dialed.greet meeting).meeting? server.nextConnection = some meeting := by
    rw [meeting?, (quiet_of_step? stepped rfl).2.1, ← meeting?, met]
  have stillRunning : server.nextConnection ∉ (dialed.greet meeting).endedConnections := by
    simpa [dialed, dial, greet, Happening.ended?] using unended
  have told : server.nextConnection ∈ (dialed.greet meeting).greetedConnections := by
    simp [greet, Happening.greeted?, meeting, nextMeeting]
  have stillOpen : server.nextConnection ∉ (dialed.greet meeting).closedConnections := by
    simpa [closedConnections, dialed, dial, greet, advance, Happening.closed?] using unclosed
  have notYet : server.nextConnection ∉ (dialed.greet meeting).expiredConnections := by
    simpa [expiredConnections, dialed, dial, greet, advance, Happening.expired?] using unexpired
  simp [standing, outbox, Outbox.receiving_greeted, Outbox.empty, session?, awaitsExpiry, kept,
    stillRunning, told, stillOpen, notYet]

/-- One connection more shakes hands and is greeted at once; the others stand as they did. -/
theorem run?_welcome
    (reachable : Reachable settings server)
    (address : Option SocketAddress)
    (parameters : HandshakeParameters) :
    let meeting := server.nextMeeting address parameters
    let after := (server.dial address parameters).greet meeting
    server.run? [.dial address parameters, .greet server.nextConnection] = some after ∧
      after.nextConnection = server.nextConnection + 1 ∧
      after.standing server.nextConnection =
        ⟨meeting.session?, true, false, meeting.outcome == .idTaken⟩ ∧
      ∀ other < server.nextConnection, after.standing other = server.standing other := by
  intro meeting after
  have coherent := Coherent.of_reachable reachable
  have dialing : server.step? (.dial address parameters) =
      some (server.dial address parameters) :=
    rfl
  obtain ⟨greeting, stands⟩ := standing_of_greeted reachable address parameters
  have dialedCoherent := Coherent.of_reachable (reachable.step dialing)
  have dialedCount :
      (server.dial address parameters).nextConnection = server.nextConnection + 1 := by
    rw [← dialedCoherent.length_meetings, ← coherent.length_meetings]
    simp [dial, Happening.meeting?]
  refine ⟨by simp [run?, dialing, greeting, after, meeting], ?_, stands, fun other known => ?_⟩
  · rw [← dialedCount]
    exact nextConnection_of_undialed dialedCoherent greeting (by simp)
  · have stillKnown : other < (server.dial address parameters).nextConnection :=
      dialedCount ▸ Nat.lt_succ_of_lt known
    rw [standing_of_elsewhere dialedCoherent greeting stillKnown
        (by simpa [Act.worksOn?] using Nat.ne_of_gt known),
      standing_of_elsewhere coherent dialing known (by simp [Act.worksOn?])]

/-- Acts by what serves one connection, and what is told meanwhile. -/
def LedOn (connection : ConnectionId) (server : Server) (journal : Journal) (after : Server) :
    Prop :=
  ∃ acts,
    server.run? acts = some after ∧
      (∀ act ∈ acts, act.serves connection = true) ∧
      after.journal = server.journal ++ journal

namespace LedOn

theorem refl
    (connection : ConnectionId)
    (server : Server) :
    LedOn connection server [] server :=
  ⟨[], rfl, fun _ member => (List.not_mem_nil member).elim, (List.append_nil _).symm⟩

theorem step
    {journal : Journal}
    (stepped : server.step? act = some after)
    (serves : act.serves connection = true)
    (told : after.journal = server.journal ++ journal) :
    LedOn connection server journal after :=
  ⟨[act], by simp [run?, stepped], by simpa using serves, told⟩

theorem trans
    {middle : Server}
    {earlier later : Journal}
    (first : LedOn connection server earlier middle)
    (second : LedOn connection middle later after) :
    LedOn connection server (earlier ++ later) after := by
  obtain ⟨firstActs, firstRan, firstServes, firstTold⟩ := first
  obtain ⟨secondActs, secondRan, secondServes, secondTold⟩ := second
  refine ⟨firstActs ++ secondActs, by simp [run?_append, firstRan, secondRan], ?_,
    by rw [secondTold, firstTold, List.append_assoc]⟩
  intro act member
  exact (List.mem_append.mp member).elim (firstServes act) (secondServes act)

/-- What serves one connection opens none, and leaves the others as they stand. -/
theorem others
    {journal : Journal}
    (reachable : Reachable settings server)
    (led : LedOn connection server journal after) :
    Reachable settings after ∧
      after.nextConnection = server.nextConnection ∧
      ∀ other < server.nextConnection,
        other ≠ connection →
        after.standing other = server.standing other := by
  obtain ⟨acts, ran, serves, -⟩ := led
  induction acts generalizing server with
  | nil =>
      cases ran
      exact ⟨reachable, rfl, fun _ _ _ => rfl⟩
  | cons act rest inductionHypothesis =>
      obtain ⟨actServes, restServe⟩ := List.forall_mem_cons.mp serves
      simp only [run?] at ran
      split at ran
      · cases ran
      · next middle stepped =>
          have coherent := Coherent.of_reachable reachable
          have sameCount := nextConnection_of_undialed coherent stepped
            (Act.undialed_of_serves actServes)
          obtain ⟨afterReachable, afterCount, kept⟩ :=
            inductionHypothesis (reachable.step stepped) ran restServe
          refine ⟨afterReachable, afterCount.trans sameCount, fun other known different => ?_⟩
          rw [kept other (sameCount.symm ▸ known) different]
          exact standing_of_elsewhere coherent stepped known
            (Act.worksOn?_ne_of_serves actServes different)

end LedOn

end Server

end SignalRelay
