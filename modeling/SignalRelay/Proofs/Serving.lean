import SignalRelay.Hub.Requests
import SignalRelay.Proofs.Channel
import SignalRelay.Proofs.Standing

namespace SignalRelay

/-!
# A hub is a server

A hub is what runs: a relay with the links to its peers, their writers and the time.  A server is
what is reasoned about: a relay to which one act after another is done, in an order that nobody
controls.  Whatever is done to a hub, acts on a server lead to the same relay, and the same is
told (`Hub.led_by_server`).

A link has to do what the standing of its connection allows (`Link.Agrees`).  Whatever serves a
link, the writer, the session or the time, does so by acts on its connection alone, so the other
links agree with the server as before.
-/

/-! ## Links -/

namespace Relay

theorem withOutbox_withOutbox
    (relay : Relay)
    (connection : ConnectionId)
    (first second : Outbox) :
    (relay.withOutbox connection first).withOutbox connection second =
      relay.withOutbox connection second := by
  simp [withOutbox, List.modify_modify_eq, Function.comp_def]

theorem withOutbox_outbox
    (relay : Relay)
    (connection : ConnectionId) :
    relay.withOutbox connection (relay.outbox connection) = relay := by
  have same : relay.connections.modify connection
      (fun held => { held with outbox := relay.outbox connection }) = relay.connections := by
    refine List.ext_getElem? fun place => ?_
    rw [List.getElem?_modify]
    by_cases own : connection = place
    · subst own
      cases found : relay.connections[connection]? with
      | none => rfl
      | some held => simp [outbox, found]
    · simp [own]
  rw [withOutbox, same]

end Relay

namespace Session

/-- A session as it was when it started. -/
def rested (session : Session) : Session :=
  .start session.client session.connection

theorem rested_of_after
    {session next : Session}
    {result : ReadResult}
    (goesOn : session.after result = some next) :
    next.rested = session.rested := by
  cases result with
  | text | binary | ping | pong =>
      cases goesOn
      rfl
  | failure =>
      simp only [after, Option.ite_none_right_eq_some, Option.some.injEq] at goesOn
      obtain ⟨-, rfl⟩ := goesOn
      rfl
  | close | reset | ended => cases goesOn

end Session

namespace Link

/-- Two links with the same to do. -/
structure SameTask (before after : Link) : Prop where
  session : after.session = before.session
  writer : after.writer = before.writer
  closeAt : after.closeAt = before.closeAt

/-- A link has to do what the standing of its connection allows. -/
structure Agrees (link : Link) (standing : Standing) : Prop where
  session : link.session.map Session.rested = standing.session
  /-- A writer that has not stopped takes from the outbox, and is writing what closes the
  connection if it took that. -/
  writing :
    link.writer ≠ .stopped →
    standing.receiving = true ∧ (standing.closed = true ↔ link.writer = .writing .close)
  awaited : link.closeAt.isSome = true → standing.awaited = true

namespace SameTask

theorem trans
    {first second third : Link}
    (earlier : SameTask first second)
    (later : SameTask second third) :
    SameTask first third where
  session := later.session.trans earlier.session
  writer := later.writer.trans earlier.writer
  closeAt := later.closeAt.trans earlier.closeAt

theorem agrees
    {before after : Link}
    {standing : Standing}
    (same : SameTask before after)
    (agrees : before.Agrees standing) :
    after.Agrees standing where
  session := by rw [same.session, agrees.session]
  writing := by rw [same.writer]; exact agrees.writing
  awaited := by rw [same.closeAt]; exact agrees.awaited

end SameTask

/-- A writer that attempted to write an item goes on with that, waits, or stops. -/
theorem Agrees.after
    {link attempted : Link}
    {standing : Standing}
    (agrees : link.Agrees standing)
    (same : link.SameTask attempted)
    (receiving : standing.receiving = true)
    (item : Outgoing)
    (result : WriteResult) :
    Agrees { attempted with writer := .after item result }
      { standing with closed := decide (item = .close) } where
  session := by rw [← agrees.session, ← same.session]
  writing := by
    intro going
    refine ⟨receiving, ?_⟩
    cases result with
    | blocked => simp [Writer.after]
    | failed => exact (going rfl).elim
    | done =>
        cases item with
        | text => simp [Writer.after]
        | close => exact (going rfl).elim
  awaited := fun due => agrees.awaited (same.closeAt ▸ due)

theorem sameTask_flush
    (link : Link) :
    link.SameTask link.flush.1 :=
  ⟨rfl, rfl, rfl⟩

theorem sameTask_attempt
    (link : Link)
    (item : Outgoing) :
    link.SameTask (link.attempt item).1 := by
  cases item with
  | text text =>
      simp only [attempt]
      split
      · exact ⟨rfl, rfl, rfl⟩
      · exact ⟨rfl, rfl, rfl⟩
  | close => exact ⟨rfl, rfl, rfl⟩

theorem sameTask_release
    (link : Link) :
    link.SameTask link.release := by
  unfold release
  split
  · exact ⟨rfl, rfl, rfl⟩
  · exact ⟨rfl, rfl, rfl⟩

theorem sameTask_readEnd
    (link : Link) :
    link.SameTask link.readEnd.1 :=
  ⟨rfl, rfl, rfl⟩

theorem sameTask_readFailure
    (reset : Bool)
    (link : Link) :
    link.SameTask (link.readFailure reset).1 :=
  ⟨rfl, rfl, rfl⟩

theorem sameTask_flushReplies
    (link : Link) :
    link.SameTask link.flushReplies.1 := by
  have flushed := link.sameTask_flush
  unfold flushReplies
  split
  · split
    · next found =>
        rw [found] at flushed
        exact flushed
    · next found =>
        rw [found] at flushed
        exact flushed.trans ⟨rfl, rfl, rfl⟩
    · next found =>
        rw [found] at flushed
        exact flushed
  · exact ⟨rfl, rfl, rfl⟩

theorem sameTask_acceptMessage
    (link : Link)
    (message : SocketMessage) :
    link.SameTask (link.acceptMessage message).1 := by
  let accepted : Link := { link with endpoint := link.endpoint.accept message }
  have took : link.SameTask accepted := ⟨rfl, rfl, rfl⟩
  cases message with
  | close => exact took
  | text | binary | ping | pong => exact took.trans accepted.sameTask_flushReplies

theorem sameTask_readFrame
    (link : Link)
    (frame : Frame) :
    link.SameTask (link.readFrame frame).1 := by
  unfold readFrame
  split
  · exact link.sameTask_acceptMessage _
  · exact ⟨rfl, rfl, rfl⟩
  · exact ⟨rfl, rfl, rfl⟩

end Link

namespace Server

variable {settings : Settings} {server : Server} {connection : ConnectionId}

/-! ## Writing -/

/-- What a writer that waits takes, an act takes too. -/
theorem ledOn_write
    (coherent : Coherent server)
    {item : Outgoing}
    {rest : Outbox}
    (receiving : (server.standing connection).receiving = true)
    (unclosed : (server.standing connection).closed = false)
    (taken : (server.relay.outbox connection).next? = some (item, rest)) :
    ∃ after,
      LedOn connection server [] after ∧
        after.relay = server.relay.withOutbox connection rest ∧
        after.standing connection =
          { server.standing connection with closed := decide (item = .close) } := by
  have notClosed : connection ∉ server.closedConnections := of_decide_eq_false unclosed
  have writing : server.writing? connection = some (item, rest) := by
    rw [writing?, taken]
    exact if_pos (by simpa [notClosed, standing] using receiving)
  have stepped : server.step? (.write connection) =
      some (server.replaceOutbox (.written connection item) connection rest) := by
    rw [step?, writing]
    rfl
  refine ⟨_, .step stepped (beq_self_eq_true _) rfl, rfl, ?_⟩
  rw [standing_of_step? coherent stepped (Relay.lt_of_receiving receiving) (by simp), writing]
  simp [standing, notClosed]

/-- A writer that stops discards the outbox, and so does an act. -/
theorem ledOn_abandon
    (coherent : Coherent server)
    (known : connection < server.nextConnection) :
    ∃ after,
      LedOn connection server [] after ∧
        after.relay =
          server.relay.withOutbox connection (server.relay.outbox connection).discard ∧
        after.standing connection =
          { server.standing connection with receiving := false } := by
  have stepped : server.step? (.abandon connection) =
      some (server.replaceOutbox (.abandoned connection) connection
        (server.relay.outbox connection).discard) :=
    rfl
  refine ⟨_, .step stepped (beq_self_eq_true _) rfl, rfl, ?_⟩
  rw [standing_of_step? coherent stepped known (by simp)]
  simp [standing]

/-- What a writer writes, acts write. -/
theorem ledOn_writeAll
    (reachable : Reachable settings server)
    (known : connection < server.nextConnection)
    {link : Link}
    {outbox : Outbox}
    (own : server.relay.outbox connection = outbox)
    (agrees : link.Agrees (server.standing connection)) :
    ∃ after,
      LedOn connection server [] after ∧
        after.relay = server.relay.withOutbox connection (link.writeAll outbox).2 ∧
        (link.writeAll outbox).1.Agrees (after.standing connection) := by
  induction link, outbox using Link.writeAll.induct generalizing server with
  | case1 link outbox waiting item rest taken attempted result written inductionHypothesis =>
      have same := link.sameTask_attempt item
      rw [written] at same
      obtain ⟨receiving, closing⟩ := agrees.writing (by simp [waiting])
      have unclosed : (server.standing connection).closed = false := by
        simpa [waiting] using closing
      obtain ⟨middle, led, relay, stands⟩ :=
        ledOn_write (.of_reachable reachable) receiving unclosed (own ▸ taken)
      obtain ⟨middleReachable, sameCount, -⟩ := led.others reachable
      -- The item is taken by an act whatever becomes of the attempt to write it.
      have restOwn : middle.relay.outbox connection = rest := by
        rw [relay]
        exact Relay.outbox_withOutbox_same (.inl known)
      have middleAgrees : Link.Agrees { attempted with writer := .after item result }
          (middle.standing connection) := by
        rw [stands]
        exact agrees.after same receiving item result
      obtain ⟨after, ledOn, afterRelay, afterAgrees⟩ :=
        inductionHypothesis middleReachable (sameCount.symm ▸ known) restOwn middleAgrees
      rw [Link.writeAll_of_taken waiting taken written]
      refine ⟨after, led.trans ledOn, ?_, afterAgrees⟩
      rw [afterRelay, relay, Relay.withOutbox_withOutbox]
  | case2 link outbox waiting nothing =>
      rw [Link.writeAll_of_nothing waiting nothing]
      exact ⟨server, .refl .., by rw [← own, Relay.withOutbox_outbox], agrees⟩
  | case3 link outbox item writing =>
      rw [Link.writeAll, writing]
      exact ⟨server, .refl .., by rw [← own, Relay.withOutbox_outbox], agrees⟩
  | case4 link outbox stopped =>
      obtain ⟨after, led, relay, stands⟩ := ledOn_abandon (.of_reachable reachable) known
      rw [Link.writeAll, stopped]
      refine ⟨after, led, own ▸ relay, ?_⟩
      rw [stands]
      exact {
        session := agrees.session
        writing := fun going => (going stopped).elim
        awaited := agrees.awaited
      }

/-- When a writer goes on, acts do what it does. -/
theorem ledOn_pump
    (reachable : Reachable settings server)
    (known : connection < server.nextConnection)
    {link : Link}
    (agrees : link.Agrees (server.standing connection)) :
    ∃ after,
      LedOn connection server [] after ∧
        after.relay = server.relay.withOutbox connection
          (link.pump (server.relay.outbox connection)).2 ∧
        (link.pump (server.relay.outbox connection)).1.Agrees (after.standing connection) := by
  refine ledOn_writeAll reachable known rfl ?_
  unfold Link.resumeWriting
  split
  · next item writing =>
      have same := link.sameTask_flush
      generalize link.flush = flushed at same ⊢
      obtain ⟨flushed, result⟩ := flushed
      obtain ⟨receiving, closing⟩ := agrees.writing (by simp [writing])
      have unchanged : (server.standing connection).closed = decide (item = .close) := by
        rw [Bool.eq_iff_iff, closing, writing, decide_eq_true_eq, Writer.writing.injEq]
      have after := agrees.after same receiving item result
      rw [← unchanged] at after
      exact after
  · exact agrees

/-! ## Reading -/

theorem known_of_session?
    (coherent : Coherent server)
    {session : Session}
    (running : server.session? connection = some session) :
    connection < server.nextConnection := by
  obtain ⟨-, -, meeting, member, own, -⟩ := of_session? running
  exact own ▸ coherent.connection_lt member

/-- What a session reads as a frame, an act reads too, and nothing else is acted on. -/
theorem ledOn_readResult
    (coherent : Coherent server)
    {session : Session}
    (running : server.session? connection = some session.rested)
    (result : ReadResult) :
    ∃ after,
      LedOn connection server (server.relay.readResult session result).2 after ∧
        after.relay = (server.relay.readResult session result).1 ∧
        after.standing connection = server.standing connection := by
  unfold Relay.readResult
  cases Session.frame? result with
  | none => exact ⟨server, .refl .., rfl, rfl⟩
  | some octets =>
      have stepped : server.step? (.frame connection octets) =
          some (server.frame session.rested octets) := by
        rw [step?, running]
        rfl
      exact ⟨_, .step stepped (beq_self_eq_true _) rfl, rfl,
        standing_of_elsewhere coherent stepped (known_of_session? coherent running)
          (Option.some_ne_none _).symm⟩

/-- A session ends, and so it does by an act. -/
theorem ledOn_endSession
    (coherent : Coherent server)
    {session : Session}
    (running : server.session? connection = some session.rested) :
    ∃ after,
      LedOn connection server (server.relay.endSession session).2 after ∧
        after.relay = (server.relay.endSession session).1 ∧
        after.standing connection = { server.standing connection with session := none } := by
  have stepped : server.step? (.finish connection) = some (server.finish session.rested) := by
    rw [step?, running]
    rfl
  refine ⟨_, .step stepped (beq_self_eq_true _) rfl, rfl, ?_⟩
  rw [standing_of_step? coherent stepped (known_of_session? coherent running) (by simp)]
  simp [standing]

/-- What a session is read through, acts read it through: those results that are frames, and
then its end where it stops. -/
theorem ledOn_readThrough
    (reachable : Reachable settings server)
    {session : Session}
    (running : server.session? connection = some session.rested)
    (results : List ReadResult) :
    ∃ after,
      LedOn connection server (server.relay.readThrough session results).2.1 after ∧
        after.relay = (server.relay.readThrough session results).1 ∧
        after.standing connection =
          { server.standing connection with
            session := (server.relay.readThrough session results).2.2.map Session.rested } := by
  induction results generalizing server session with
  | nil =>
      refine ⟨server, .refl .., rfl, ?_⟩
      simp [Relay.readThrough, ← running, standing]
  | cons result later inductionHypothesis =>
      obtain ⟨middle, ledOn, relay, stands⟩ :=
        ledOn_readResult (.of_reachable reachable) running result
      obtain ⟨middleReachable, -, -⟩ := ledOn.others reachable
      -- Failures are counted by the hub alone; what a server knows of the session stays.
      have stillRunning : middle.session? connection = some session.rested :=
        (congrArg Standing.session stands).trans running
      unfold Relay.readThrough
      generalize server.relay.readResult session result = read at ledOn relay ⊢
      obtain ⟨read, told⟩ := read
      simp only at relay ⊢
      subst relay
      cases goesOn : session.after result with
      | some next =>
          rw [← Session.rested_of_after goesOn] at stillRunning
          obtain ⟨after, ledFurther, afterRelay, afterStands⟩ :=
            inductionHypothesis middleReachable stillRunning
          exact ⟨after, ledOn.trans ledFurther, afterRelay, stands ▸ afterStands⟩
      | none =>
          obtain ⟨after, ledFurther, afterRelay, afterStands⟩ :=
            ledOn_endSession (.of_reachable middleReachable) stillRunning
          exact ⟨after, ledOn.trans ledFurther, afterRelay, stands ▸ afterStands⟩

/-! ## Time -/

/-- A connection whose grace is over is closed, and so it is by an act. -/
theorem ledOn_expire
    (coherent : Coherent server)
    (known : connection < server.nextConnection)
    (awaits : (server.standing connection).awaited = true) :
    ∃ after,
      LedOn connection server [] after ∧
        after.relay = server.relay.closeConnection connection ∧
        after.standing connection = { server.standing connection with awaited := false } := by
  have stepped : server.step? (.expire connection) =
      some (server.advance (.expired connection)
        (server.relay.closeConnection connection, [])) :=
    if_pos awaits
  refine ⟨_, .step stepped (beq_self_eq_true _) rfl, rfl, ?_⟩
  rw [standing_of_step? coherent stepped known (by simp)]
  simp [standing]

end Server

/-! ## Answers -/

namespace Relay

/-- What is answered leaves the relay alone, or carries out a request for a message. -/
def CarriesOut (relay : Relay) (answered : Relay × Journal × HttpResponse) : Prop :=
  (answered.1 = relay ∧ answered.2.1 = []) ∨
    ∃ ordered : RelayRequest,
      answered.1 = (relay.relayRequest ordered).1 ∧
        answered.2.1 = (relay.relayRequest ordered).2.1

theorem carriesOut_relayResponse
    (relay : Relay)
    (arguments : List String)
    (body : Octets) :
    relay.CarriesOut (relay.relayResponse arguments body) := by
  unfold relayResponse
  split
  · next key id token kind _ =>
      refine .inr ⟨⟨key, id, token, kind, body⟩, ?_⟩
      split
      · next found => exact ⟨by rw [found], by rw [found]⟩
      · next found => exact ⟨by rw [found], by rw [found]⟩
  · exact .inl ⟨rfl, rfl⟩

theorem carriesOut_respond
    (relay : Relay)
    (context : AnswerContext)
    (request : HttpRequest)
    (query : Option (List Char))
    (captures : List Capture)
    (resource : Resource) :
    relay.CarriesOut (relay.respond context request query captures resource) := by
  cases resource with
  | message =>
      simp only [respond]
      split
      · exact .inl ⟨rfl, rfl⟩
      · exact relay.carriesOut_relayResponse _ request.body
  | health | metrics | socket | freshId | peers => exact .inl ⟨rfl, rfl⟩

theorem carriesOut_answer
    (relay : Relay)
    (context : AnswerContext)
    (request : HttpRequest) :
    relay.CarriesOut (relay.answer context request) := by
  simp only [answer]
  split
  · exact .inl ⟨rfl, rfl⟩
  · next target _ =>
      split
      · exact .inl ⟨rfl, rfl⟩
      · split
        · exact .inl ⟨rfl, rfl⟩
        · next resource captures _ =>
            split
            · exact .inl ⟨rfl, rfl⟩
            · exact relay.carriesOut_respond context request target.query captures resource

end Relay

/-! ## Hubs -/

namespace Hub

variable {settings : Settings} {hub : Hub} {server after : Server} {connection : ConnectionId}

/-- A hub follows a server: the relay is the same, every connection has a link, and each link has
to do what the standing of its connection allows. -/
structure Follows (settings : Settings) (hub : Hub) (server : Server) : Prop where
  reachable : Server.Reachable settings server
  relay : server.relay = hub.relay
  count : hub.links.length = server.nextConnection
  links :
    ∀ connection link,
      hub.link? connection = some link →
      link.Agrees (server.standing connection)

/-- Acts lead a server to where a hub follows it, and what they tell is told there. -/
def Reached (settings : Settings) (server : Server) (hub : Hub) (journal : Journal) : Prop :=
  ∃ acts after,
    server.run? acts = some after ∧
      after.journal = server.journal ++ journal ∧
      hub.Follows settings after

namespace Follows

/-- A hub that follows a server has been reached without an act. -/
theorem reached
    (follows : hub.Follows settings server) :
    Reached settings server hub [] :=
  ⟨[], server, rfl, (List.append_nil _).symm, follows⟩

theorem known
    (follows : hub.Follows settings server)
    {link : Link}
    (found : hub.link? connection = some link) :
    connection < server.nextConnection :=
  follows.count ▸ (List.getElem?_eq_some_iff.mp found).1

/-- When acts on one connection lead the server on, a hub follows that changes its link. -/
theorem onward
    (follows : hub.Follows settings server)
    {link changed : Link}
    (found : hub.link? connection = some link)
    {journal : Journal}
    (led : server.LedOn connection journal after)
    (agrees : changed.Agrees (after.standing connection)) :
    ({ hub with relay := after.relay }.withLink connection changed).Follows settings after := by
  have inBounds : connection < hub.links.length := (List.getElem?_eq_some_iff.mp found).1
  obtain ⟨afterReachable, sameCount, kept⟩ := led.others follows.reachable
  refine ⟨afterReachable, rfl, ?_, fun other otherLink otherFound => ?_⟩
  · rw [withLink, List.length_set, follows.count, sameCount]
  · simp only [link?, withLink, List.getElem?_set, inBounds, ↓reduceIte] at otherFound
    split at otherFound
    · next same =>
        cases otherFound
        exact same ▸ agrees
    · next different =>
        rw [kept other (follows.known otherFound) (Ne.symm different)]
        exact follows.links other otherLink otherFound

theorem serve
    (follows : hub.Follows settings server)
    {link changed : Link}
    (found : hub.link? connection = some link)
    {journal : Journal}
    (led : server.LedOn connection journal after)
    {relay : Relay}
    (same : after.relay = relay)
    (agrees : changed.Agrees (after.standing connection)) :
    Reached settings server ({ hub with relay }.withLink connection changed) journal := by
  obtain ⟨acts, ran, -, told⟩ := id led
  exact ⟨acts, after, ran, told, same ▸ follows.onward found led agrees⟩

end Follows

/-- What is reached from where something was reached, is reached. -/
theorem Reached.trans
    {next : Hub}
    {earlier later : Journal}
    (reached : Reached settings server hub earlier)
    (goesOn : ∀ middle, hub.Follows settings middle → Reached settings middle next later) :
    Reached settings server next (earlier ++ later) := by
  obtain ⟨firstActs, middle, firstRan, firstTold, follows⟩ := reached
  obtain ⟨secondActs, after, secondRan, secondTold, nextFollows⟩ := goesOn middle follows
  exact ⟨firstActs ++ secondActs, after, by simp [Server.run?_append, firstRan, secondRan],
    by rw [secondTold, firstTold, List.append_assoc], nextFollows⟩

/-- What can be done for one connection can be done for one after another. -/
theorem Follows.foldl
    {serve : Hub → ConnectionId → Hub}
    (served :
      ∀ {hub server connection},
        hub.Follows settings server →
        Reached settings server (serve hub connection) [])
    (follows : hub.Follows settings server)
    (connections : List ConnectionId) :
    Reached settings server (connections.foldl serve hub) [] := by
  induction connections generalizing hub server with
  | nil => exact follows.reached
  | cons connection rest inductionHypothesis =>
      exact (served follows).trans fun middle middleFollows => inductionHypothesis middleFollows

theorem Follows.settleLink
    (follows : hub.Follows settings server) :
    Reached settings server (hub.settleLink connection) [] := by
  unfold Hub.settleLink
  split
  · next link found =>
      obtain ⟨after, led, relay, agrees⟩ :=
        Server.ledOn_pump follows.reachable (follows.known found) (follows.links _ _ found)
      rw [follows.relay] at relay agrees
      exact follows.serve found led relay ((Link.sameTask_release _).agrees agrees)
  · exact follows.reached

theorem Follows.settle
    (follows : hub.Follows settings server) :
    Reached settings server hub.settle [] :=
  follows.foldl settleLink _

/-- What was reached is reached still when all writers have gone on. -/
theorem Reached.settle
    {journal : Journal}
    (reached : Reached settings server hub journal) :
    Reached settings server hub.settle journal := by
  have settled := reached.trans fun _ follows => follows.settle
  rwa [List.append_nil] at settled

theorem Follows.read
    (follows : hub.Follows settings server)
    {reading : Link → Link × List ReadResult}
    (same : ∀ link : Link, link.SameTask (reading link).1) :
    Reached settings server (hub.read connection reading).1
      (hub.read connection reading).2 := by
  unfold Hub.read
  split
  · exact follows.reached
  · next link found =>
      split
      · exact follows.reached
      · next session running =>
          have agrees := follows.links _ _ found
          have task := same link
          generalize reading link = readings at task ⊢
          obtain ⟨changed, results⟩ := readings
          have runs : server.session? connection = some session.rested := by
            rw [← Option.map_some, ← running]
            exact agrees.session.symm
          obtain ⟨after, led, relay, stands⟩ :=
            Server.ledOn_readThrough follows.reachable runs results
          rw [follows.relay] at led relay stands
          refine follows.serve found led relay ?_
          rw [stands]
          exact {
            session := rfl
            writing := by rw [task.writer]; exact agrees.writing
            awaited := by rw [task.closeAt]; exact agrees.awaited
          }

theorem Follows.changeLine
    (follows : hub.Follows settings server)
    (change : Line → Line) :
    (hub.changeLine connection change).Follows settings server := by
  unfold Hub.changeLine
  split
  · exact follows
  · next link found =>
      have same : link.SameTask { link with line := change link.line } := ⟨rfl, rfl, rfl⟩
      have onward := follows.onward found (.refl connection server)
        (same.agrees (follows.links _ _ found))
      rwa [follows.relay] at onward

theorem Follows.wake
    (follows : hub.Follows settings server) :
    Reached settings server (hub.wake connection).1 (hub.wake connection).2 :=
  (follows.read Link.sameTask_flushReplies).settle

theorem Follows.halfClose
    (follows : hub.Follows settings server) :
    Reached settings server (hub.halfClose connection).1 (hub.halfClose connection).2 :=
  (follows.read Link.sameTask_readEnd).settle

theorem Follows.closeIfDue
    (follows : hub.Follows settings server) :
    Reached settings server (hub.closeIfDue connection) [] := by
  unfold Hub.closeIfDue
  split
  · exact follows.reached
  · next link found =>
      split
      · exact follows.reached
      · next due awaited =>
          split
          · have agrees := follows.links _ _ found
            obtain ⟨after, led, relay, stands⟩ :=
              Server.ledOn_expire (.of_reachable follows.reachable) (follows.known found)
                (agrees.awaited (by simp [awaited]))
            rw [follows.relay] at relay
            refine follows.serve found led relay ?_
            rw [stands]
            exact ⟨agrees.session, agrees.writing, fun due => by cases due⟩
          · exact follows.reached

theorem Follows.advance
    (follows : hub.Follows settings server)
    (milliseconds : Nat) :
    Reached settings server (hub.advance milliseconds) [] := by
  let later : Hub := { hub with clock := hub.clock + milliseconds }
  have laterFollows : later.Follows settings server :=
    ⟨follows.reachable, follows.relay, follows.count, follows.links⟩
  exact (laterFollows.foldl closeIfDue _).settle

/-! ## Arrivals and requests -/

/-- A hub follows a server with one connection more when it has a link for that. -/
theorem Follows.join
    (follows : hub.Follows settings server)
    (reachable : Server.Reachable settings after)
    (count : after.nextConnection = server.nextConnection + 1)
    {link : Link}
    (agrees : link.Agrees (after.standing server.nextConnection))
    (others :
      ∀ other < server.nextConnection, after.standing other = server.standing other) :
    Follows settings ⟨after.relay, hub.links ++ [link], hub.clock⟩ after := by
  refine ⟨reachable, rfl, ?_, fun connection held found => ?_⟩
  · rw [List.length_append, List.length_singleton, follows.count, count]
  · rcases Nat.lt_trichotomy connection hub.links.length with before | rfl | beyond
    · rw [link?, List.getElem?_append_left before] at found
      rw [others connection (follows.count ▸ before)]
      exact follows.links connection held found
    · rw [link?, List.getElem?_concat_length] at found
      cases found
      exact follows.count ▸ agrees
    · rw [link?, List.getElem?_eq_none (by simpa using Nat.succ_le_of_lt beyond)] at found
      cases found

/-- The link of a connection that was greeted has to do what its handshake led to. -/
theorem agrees_of_met
    (meeting : Meeting)
    (due : Nat) :
    Link.Agrees
      { session := meeting.session?
        closeAt := if meeting.outcome = .idTaken then some due else none }
      ⟨meeting.session?, true, false, meeting.outcome == .idTaken⟩ where
  session := by
    cases given : meeting.outcome.client? <;>
      simp [Meeting.session?, given, Session.rested, Session.start]
  writing _ := by simp
  awaited waits := by
    by_cases taken : meeting.outcome = .idTaken
    · simp [taken]
    · simp [taken] at waits

/-- A hub that is dialed follows a server on which a connection shakes hands and is greeted. -/
theorem Follows.dial
    (follows : hub.Follows settings server)
    (address : Option SocketAddress)
    (parameters : HandshakeParameters) :
    Reached settings server (hub.dial address parameters).1
      (hub.dial address parameters).2.2 := by
  obtain ⟨relay, links, clock⟩ := hub
  obtain ⟨reachable, rfl, count, linked⟩ := id follows
  obtain ⟨ran, oneMore, stands, others⟩ := server.run?_welcome reachable address parameters
  have joined := follows.join (reachable.run ran) oneMore
    (stands ▸ agrees_of_met _ (clock + Session.idTakenGrace)) others
  refine Reached.settle ⟨_, _, ran, ?_, joined⟩
  exact (List.append_assoc ..).trans (congrArg (server.journal ++ ·) (List.append_assoc ..).symm)

/-- A request that is answered follows a server that carries out a request, or does nothing. -/
theorem Follows.answer
    (follows : hub.Follows settings server)
    (context : AnswerContext)
    (request : HttpRequest) :
    Reached settings server (hub.answer context request).1
      (hub.answer context request).2.1 := by
  have answered : Reached settings server
      { hub with relay := (hub.relay.answer context request).1 }
      (hub.relay.answer context request).2.1 := by
    rcases hub.relay.carriesOut_answer context request with
      ⟨sameRelay, silent⟩ | ⟨ordered, sameRelay, told⟩
    · rw [sameRelay, silent]
      exact follows.reached
    · have stepped : server.step? (.request ordered) = some (server.request ordered) := rfl
      have coherent := Server.Coherent.of_reachable follows.reachable
      have reachable := follows.reachable.step stepped
      rw [sameRelay, told, ← follows.relay]
      refine ⟨[.request ordered], server.request ordered, rfl, rfl, reachable, rfl, ?_, ?_⟩
      · rw [Server.nextConnection_of_undialed coherent stepped (by simp), ← follows.count]
      · intro connection link found
        rw [Server.standing_of_elsewhere coherent stepped (follows.known found)
          (by simp [Act.worksOn?])]
        exact follows.links connection link found
  exact answered.settle

theorem Follows.connect
    (follows : hub.Follows settings server)
    (address : Option SocketAddress)
    (context : AnswerContext)
    (request : HttpRequest) :
    Reached settings server (hub.connect address context request).1
      (hub.connect address context request).2.1 := by
  unfold Hub.connect
  split
  · exact follows.reached
  · exact follows.dial address _
  · exact follows.answer context request

theorem Follows.collect
    (follows : hub.Follows settings server) :
    hub.collect.1.Follows settings server := by
  refine ⟨follows.reachable, follows.relay, ?_, fun connection link found => ?_⟩
  · rw [← follows.count]
    exact List.length_map ..
  · simp only [link?, Hub.collect, List.getElem?_map, Option.map_eq_some_iff] at found
    obtain ⟨held, foundHeld, rfl⟩ := found
    have same : held.SameTask { held with delivered := [] } := ⟨rfl, rfl, rfl⟩
    exact same.agrees (follows.links connection held foundHeld)

end Hub

/-! ## What is done to a hub -/

/-- What can be done to a hub. -/
inductive HubAct where
  /-- A request arrives over a line that may become a WebSocket. -/
  | connect : Option SocketAddress → AnswerContext → HttpRequest → HubAct
  /-- A request arrives over another line. -/
  | answer : AnswerContext → HttpRequest → HubAct
  | receiveFrame : ConnectionId → Frame → HubAct
  | halfClose : ConnectionId → HubAct
  | drop : ConnectionId → HubAct
  | failRead : ConnectionId → Bool → HubAct
  | failWrite : ConnectionId → HubAct
  | stall : ConnectionId → HubAct
  | resume : ConnectionId → HubAct
  /-- Milliseconds pass. -/
  | advance : Nat → HubAct
  /-- What the peers got is collected. -/
  | collect : HubAct

namespace Hub

/-- Do one thing to a hub, and tell what the relay told. -/
def perform (hub : Hub) : HubAct → Hub × Journal
  | .connect address context request =>
      let (hub, journal, _) := hub.connect address context request
      (hub, journal)
  | .answer context request =>
      let (hub, journal, _) := hub.answer context request
      (hub, journal)
  | .receiveFrame connection frame => hub.receiveFrame connection frame
  | .halfClose connection => hub.halfClose connection
  | .drop connection => hub.drop connection
  | .failRead connection reset => hub.failRead connection reset
  | .failWrite connection => hub.failWrite connection
  | .stall connection => hub.stall connection
  | .resume connection => hub.resume connection
  | .advance milliseconds => (hub.advance milliseconds, [])
  | .collect => (hub.collect.1, [])

/-- Do one thing after another to a hub. -/
def performAll : Hub → List HubAct → Hub × Journal
  | hub, [] => (hub, [])
  | hub, act :: rest =>
      let (next, journal) := hub.perform act
      let (last, more) := next.performAll rest
      (last, journal ++ more)

variable {settings : Settings} {hub : Hub} {server : Server}

/-- Whatever is done to a hub, it follows where acts lead a server that it followed. -/
theorem Follows.perform
    (follows : hub.Follows settings server)
    (act : HubAct) :
    Reached settings server (hub.perform act).1 (hub.perform act).2 := by
  cases act with
  | connect address context request => exact follows.connect address context request
  | answer context request => exact follows.answer context request
  | receiveFrame connection frame =>
      exact (follows.read (·.sameTask_readFrame frame)).settle
  | halfClose connection => exact follows.halfClose
  | drop connection => exact (follows.changeLine _).halfClose
  | failRead connection reset => exact (follows.read (Link.sameTask_readFailure reset)).settle
  | failWrite connection | stall connection | resume connection =>
      exact (follows.changeLine _).wake
  | advance milliseconds => exact follows.advance milliseconds
  | collect => exact follows.collect.reached

theorem Follows.performAll
    (follows : hub.Follows settings server)
    (acts : List HubAct) :
    Reached settings server (hub.performAll acts).1 (hub.performAll acts).2 := by
  induction acts generalizing hub server with
  | nil => exact follows.reached
  | cons act rest inductionHypothesis =>
      exact (follows.perform act).trans fun _ nextFollows => inductionHypothesis nextFollows

/--
A hub is a server.  Whatever is done to a hub, one thing after another, there is a run of a server
with the same settings that leads to the same relay and tells the same in the same order.  What
holds of every reachable server holds of what runs.
-/
theorem led_by_server
    (settings : Settings)
    (acts : List HubAct) :
    ∃ serverActs server,
      (Server.start settings).run? serverActs = some server ∧
        server.relay = ((Hub.start settings).performAll acts).1.relay ∧
        server.journal = ((Hub.start settings).performAll acts).2 := by
  have follows : (Hub.start settings).Follows settings (Server.start settings) :=
    ⟨.start, rfl, rfl, fun _ _ found => by cases found⟩
  obtain ⟨serverActs, server, ran, told, reached⟩ := follows.performAll acts
  exact ⟨serverActs, server, ran, reached.relay, told⟩

end Hub

end SignalRelay
