import SignalRelay.Proofs.Provenance

namespace SignalRelay

/-!
# What the counters tell

The counters are read off the journal.  What an act counts follows from what it does: a frame
that cannot be decoded is counted as malformed, a sign of life is not counted, and any other
frame is counted once, as relayed or as dropped.  A request that has its message routed is
counted likewise, and one that is refused is not counted at all.

`Server.Counts` says this once for all acts.  That the counters agree with what happened in a
run, and the gauge with the directory, follows from it by induction.
-/

namespace Tally

/-- Whether a message is counted as relayed. -/
def isRelayed : Tally → Bool
  | .relayed _ => true
  | _ => false

/-- The label of a handshake that is counted. -/
def handshake? : Tally → Option HandshakeLabel
  | .handshake label => some label
  | _ => none

/-- The value to which the gauge is set. -/
def active? : Tally → Option Nat
  | .clientsActive count => some count
  | _ => none

end Tally

namespace Happening

/-- Whether a frame was read that cannot be decoded. -/
def isMalformed : Happening → Bool
  | .read _ octets => (Message.ofOctets octets).toOption.isNone
  | _ => false

end Happening

theorem MessageKind.ne_heartbeat
    {kind : MessageKind}
    (unreserved : kind.isReserved = false) :
    kind ≠ .heartbeat := by
  rintro rfl
  cases unreserved

theorem Journal.tallies_append
    (earlier later : Journal) :
    Journal.tallies (earlier ++ later) = earlier.tallies ++ later.tallies :=
  List.filterMap_append

/-- How a frame is counted that was decoded, or was not. -/
inductive FrameCount : Except Fault Message → List Tally → Prop where
  | malformed
      {fault : Fault} :
      FrameCount (.error fault) [.malformed]
  | heartbeat
      {message : Message}
      (heartbeat : message.kind = .heartbeat) :
      FrameCount (.ok message) []
  | relayed
      {message : Message}
      (other : message.kind ≠ .heartbeat) :
      FrameCount (.ok message) [.relayed message.kind]
  | dropped
      {message : Message}
      {reason : DropReason}
      (other : message.kind ≠ .heartbeat)
      (labelled : reason.text ∈ ["reserved_type", "protocol", "routing", "write_failed"]) :
      FrameCount (.ok message) [.dropped reason]

/-- How a request is counted. -/
inductive RequestCount : List Tally → Prop where
  | refused :
      RequestCount []
  | relayed
      {kind : MessageKind} :
      RequestCount [.relayed kind]
  | dropped :
      RequestCount [.dropped .writeFailed]

namespace Relay

/-- How routing a message is counted and how it ends. -/
inductive Routed (relay : Relay) (message : Message) :
    Journal × Except RelayError Unit → Prop where
  | relayed
      {target : ConnectionId}
      (reaches : relay.Reaches message target) :
      Routed relay message ([.tally (.relayed message.kind)], .ok ())
  | refused
      (unreached : ∀ target, ¬ relay.Reaches message target) :
      Routed relay message ([.tally (.dropped .writeFailed)], .ok ())
  | failed
      {error : RelayError}
      (unreached : ∀ target, ¬ relay.Reaches message target)
      (labelled : error.label ∈ ["protocol", "routing"]) :
      Routed relay message ([], .error error)

theorem routed
    (relay : Relay)
    (message : Message) :
    relay.Routed message (relay.route message).2 := by
  by_cases reached : ∃ target, relay.Reaches message target
  · obtain ⟨target, reaches⟩ := reached
    rw [route_of_reaches reaches]
    exact .relayed reaches
  · have unreached (target : ConnectionId) (reaches : relay.Reaches message target) : False :=
      reached ⟨target, reaches⟩
    unfold route
    split
    · exact .failed unreached List.mem_cons_self
    · next id recipient =>
        split
        · exact .failed unreached (List.mem_cons_of_mem _ List.mem_cons_self)
        · next reference found =>
            obtain ⟨error, refused⟩ := sendToClient_of_not_reaches unreached recipient found
            rw [refused]
            exact .refused unreached

end Relay

namespace Server

/-- The texts that the queues of all connections accept from one state to the next. -/
def gainedTexts (before after : Server) : List String :=
  (List.range before.nextConnection).flatMap fun connection =>
    (Outbox.gained (before.relay.outbox connection)
      (after.relay.outbox connection)).filterMap Outgoing.text?

/-- The texts that queues accept from the messages that acts relay. -/
def relayedTexts : Server → List Act → List String
  | _, [] => []
  | server, act :: rest =>
      match server.step? act with
      | none => []
      | some after =>
          (if act.isRelaying then gainedTexts server after else []) ++ relayedTexts after rest

/-- The value of the gauge, once it was set. -/
def gauge? (server : Server) : Option Nat :=
  (server.journal.tallies.filterMap Tally.active?).getLast?

/-- Everything that an act can count. -/
inductive Counts (server : Server) : Act → List Tally → Prop where
  | met
      {address : Option SocketAddress}
      {parameters : HandshakeParameters} :
      Counts server (.dial address parameters)
        [.handshake (server.met address parameters).2.2.label]
  | greeted
      {connection : ConnectionId}
      {meeting : Meeting}
      (ungreeted : server.ungreeted? connection = some meeting) :
      Counts server (.greet connection)
        (if meeting.isRegistration then [.clientsActive server.relay.directory.size] else [])
  | malformed
      {connection : ConnectionId}
      {octets : Octets}
      {fault : Fault}
      (unread : Message.ofOctets octets = .error fault) :
      Counts server (.frame connection octets) [.malformed]
  | heartbeat
      {connection : ConnectionId}
      {octets : Octets}
      {message : Message}
      (read : Message.ofOctets octets = .ok message)
      (heartbeat : message.kind = .heartbeat) :
      Counts server (.frame connection octets) []
  | reserved
      {connection : ConnectionId}
      {octets : Octets}
      {message : Message}
      (read : Message.ofOctets octets = .ok message)
      (notHeartbeat : message.kind ≠ .heartbeat)
      (reserved : message.kind.isReserved = true) :
      Counts server (.frame connection octets) [.dropped .reservedKind]
  | relayed
      {act : Act}
      {message : Message}
      {target : ConnectionId}
      (relays : server.Relays act message)
      (reaches : server.relay.Reaches message target) :
      Counts server act [.relayed message.kind]
  | refused
      {act : Act}
      {message : Message}
      (relays : server.Relays act message)
      (unreached : ∀ target, ¬ server.relay.Reaches message target) :
      Counts server act [.dropped .writeFailed]
  | failed
      {connection : ConnectionId}
      {octets : Octets}
      {message : Message}
      {error : RelayError}
      (relays : server.Relays (.frame connection octets) message)
      (unreached : ∀ target, ¬ server.relay.Reaches message target)
      (labelled : error.label ∈ ["protocol", "routing"]) :
      Counts server (.frame connection octets) [.dropped (.failed error)]
  | rejected
      {request : RelayRequest}
      (unreached :
        ∀ message target,
          server.Relays (.request request) message → ¬ server.relay.Reaches message target) :
      Counts server (.request request) []
  | ended
      {connection : ConnectionId}
      {session : Session}
      (running : server.session? connection = some session) :
      Counts server (.finish connection)
        (if (server.relay.boundEntry? (server.relay.clientId session.client)
            session.connection).isSome then
          [.clientsActive (server.finish session).relay.directory.size]
        else
          [])
  | expired
      {connection : ConnectionId} :
      Counts server (.expire connection) []
  | written
      {connection : ConnectionId} :
      Counts server (.write connection) []
  | abandoned
      {connection : ConnectionId} :
      Counts server (.abandon connection) []

variable {settings : Settings} {first server after : Server} {acts : List Act} {act : Act}
variable {connection : ConnectionId} {session : Session} {octets : Octets}

/-! ## What one act counts -/

theorem tallies_advance
    (server : Server)
    (happening : Happening)
    (result : Relay × Journal) :
    (server.advance happening result).journal.tallies =
      server.journal.tallies ++ result.2.tallies :=
  Journal.tallies_append ..

theorem counts_frame
    (running : server.session? connection = some session)
    (octets : Octets) :
    ∃ counted,
      (server.frame session octets).journal.tallies = server.journal.tallies ++ counted ∧
        server.Counts (.frame connection octets) counted := by
  rw [frame, tallies_advance]
  refine ⟨_, rfl, ?_⟩
  unfold Relay.readFrame
  cases read : Message.ofOctets octets with
  | error fault => exact .malformed read
  | ok message =>
      let stamped := message.withSource (server.relay.clientId session.client)
      change server.Counts _ (server.relay.dispatch stamped).2.tallies
      by_cases heartbeat : stamped.kind = .heartbeat
      · have nothing : (server.relay.dispatch stamped).2.tallies = [] := by
          rw [Relay.dispatch, if_pos heartbeat]
          rfl
        exact nothing ▸ .heartbeat read heartbeat
      · by_cases reserved : stamped.kind.isReserved = true
        · have dropped :
              (server.relay.dispatch stamped).2.tallies = [.dropped .reservedKind] := by
            rw [Relay.dispatch, if_neg heartbeat, if_pos reserved]
            rfl
          exact dropped ▸ .reserved read heartbeat reserved
        · have relays : server.Relays (.frame connection octets) stamped :=
            .frame running read fun text =>
              reserved ((MessageKind.isReserved_iff
                (Message.kind_canonical_of_ofOctets read)).mpr text)
          have routed := server.relay.routed stamped
          rw [Relay.dispatch, if_neg heartbeat, if_neg reserved]
          generalize server.relay.route stamped = result at routed ⊢
          obtain ⟨relay, result⟩ := result
          cases routed with
          | relayed reaches => exact .relayed relays reaches
          | refused unreached => exact .refused relays unreached
          | failed unreached labelled => exact .failed relays unreached labelled

theorem counts_request
    (server : Server)
    (request : RelayRequest) :
    ∃ counted,
      (server.request request).journal.tallies = server.journal.tallies ++ counted ∧
        server.Counts (.request request) counted := by
  change ∃ counted, (server.advance _ ((server.relay.relayRequest request).1,
    (server.relay.relayRequest request).2.1)).journal.tallies = _ ∧ _
  rw [tallies_advance]
  refine ⟨_, rfl, ?_⟩
  unfold Relay.relayRequest
  cases ordered : server.relay.requested request with
  | error refusal =>
      refine .rejected fun message target relays => ?_
      cases relays with
      | request orderedToo =>
          rw [ordered] at orderedToo
          cases orderedToo
  | ok message =>
      have relays : server.Relays (.request request) message := .request ordered
      have routed := server.relay.routed message
      simp only
      generalize server.relay.route message = result at routed ⊢
      obtain ⟨relay, result⟩ := result
      cases routed with
      | relayed reaches => exact .relayed relays reaches
      | refused unreached => exact .refused relays unreached
      | failed unreached labelled =>
          refine .rejected fun other target relaysToo reaches => ?_
          cases relays.unique relaysToo
          exact unreached target reaches

/-- Of what a connection is told after its handshake, a registration sets the gauge. -/
theorem tallies_greet
    (server : Server)
    (meeting : Meeting) :
    (server.greet meeting).journal.tallies =
      server.journal.tallies ++
        if meeting.isRegistration then [.clientsActive server.relay.directory.size] else [] := by
  have uncounted (relay : Relay) :
      Journal.tallies (meeting.session?.toList.flatMap relay.beginSession) = [] := by
    cases meeting.session? <;> rfl
  have told :
      (server.relay.greet meeting.connection meeting.outcome).2.tallies =
        if meeting.isRegistration then [.clientsActive server.relay.directory.size] else [] := by
    unfold Relay.greet Meeting.isRegistration
    cases meeting.outcome <;> rfl
  unfold greet
  generalize server.relay.greet meeting.connection meeting.outcome = result at told ⊢
  obtain ⟨relay, journal⟩ := result
  change Journal.tallies (server.journal ++ (journal ++ _)) = _
  rw [Journal.tallies_append, Journal.tallies_append, uncounted, List.append_nil]
  exact congrArg (server.journal.tallies ++ ·) told

/-- The end of a session sets the gauge if it gives up the id. -/
theorem tallies_finish
    (server : Server)
    (session : Session) :
    (server.finish session).journal.tallies =
      server.journal.tallies ++
        if (server.relay.boundEntry? (server.relay.clientId session.client)
            session.connection).isSome then
          [.clientsActive (server.finish session).relay.directory.size]
        else
          [] := by
  have told :
      (server.relay.endSession session).2.tallies =
        if (server.relay.boundEntry? (server.relay.clientId session.client)
            session.connection).isSome then
          [.clientsActive (server.relay.endSession session).1.directory.size]
        else
          [] := by
    rw [Relay.endSession, Journal.tallies_append]
    split <;> rfl
  rw [finish, tallies_advance, told]
  rfl

/-- Every act counts one of the things that it can count. -/
theorem counts_of_step?
    (stepped : server.step? act = some after) :
    ∃ counted,
      after.journal.tallies = server.journal.tallies ++ counted ∧
        server.Counts act counted := by
  cases act with
  | dial address parameters =>
      cases stepped
      exact ⟨_, tallies_advance .., .met⟩
  | greet connection =>
      obtain ⟨meeting, ungreeted, rfl⟩ := Option.map_eq_some_iff.mp stepped
      exact ⟨_, server.tallies_greet meeting, .greeted ungreeted⟩
  | expire connection =>
      simp only [step?, Option.ite_none_right_eq_some, Option.some.injEq] at stepped
      obtain ⟨-, rfl⟩ := stepped
      exact ⟨_, tallies_advance .., .expired⟩
  | frame connection octets =>
      obtain ⟨session, running, rfl⟩ := Option.map_eq_some_iff.mp stepped
      exact counts_frame running octets
  | request request =>
      cases stepped
      exact server.counts_request request
  | finish connection =>
      obtain ⟨session, running, rfl⟩ := Option.map_eq_some_iff.mp stepped
      exact ⟨_, server.tallies_finish session, .ended running⟩
  | write connection =>
      obtain ⟨⟨item, outbox⟩, -, rfl⟩ := Option.map_eq_some_iff.mp stepped
      exact ⟨_, tallies_advance .., .written⟩
  | abandon connection =>
      cases stepped
      exact ⟨_, tallies_advance .., .abandoned⟩

/-! ## Frames and requests -/

/-- What a session relays was decoded from a frame and is not reserved. -/
theorem Relays.of_frame
    {message : Message}
    (relays : server.Relays (.frame connection octets) message) :
    ∃ read,
      Message.ofOctets octets = .ok read ∧
        read.kind = message.kind ∧
        read.kind.isReserved = false := by
  cases relays with
  | frame running read unreserved =>
      refine ⟨_, read, rfl, Bool.eq_false_iff.mpr fun reserved => unreserved ?_⟩
      exact (MessageKind.isReserved_iff (Message.kind_canonical_of_ofOctets read)).mp reserved

theorem Counts.frameCount
    {counted : List Tally}
    (counts : server.Counts (.frame connection octets) counted) :
    FrameCount (Message.ofOctets octets) counted := by
  cases counts with
  | malformed unread => exact unread ▸ .malformed
  | heartbeat read heartbeat => exact read ▸ .heartbeat heartbeat
  | reserved read other => exact read ▸ .dropped other (by decide)
  | relayed relays =>
      obtain ⟨message, read, sameKind, unreserved⟩ := relays.of_frame
      exact read ▸ sameKind ▸ .relayed (MessageKind.ne_heartbeat unreserved)
  | refused relays =>
      obtain ⟨message, read, -, unreserved⟩ := relays.of_frame
      exact read ▸ .dropped (MessageKind.ne_heartbeat unreserved) (by decide)
  | failed relays unreached labelled =>
      obtain ⟨message, read, -, unreserved⟩ := relays.of_frame
      refine read ▸ .dropped (MessageKind.ne_heartbeat unreserved) (List.mem_cons_of_mem _ ?_)
      exact List.mem_append_left ["write_failed"] labelled

theorem Counts.requestCount
    {request : RelayRequest}
    {counted : List Tally}
    (counts : server.Counts (.request request) counted) :
    RequestCount counted := by
  cases counts with
  | relayed => exact .relayed
  | refused => exact .dropped
  | rejected => exact .refused

/-! ## What queues accept -/

theorem gainedTexts_eq_nil
    (unchanged :
      ∀ connection,
        Outbox.gained (server.relay.outbox connection) (after.relay.outbox connection) = []) :
    gainedTexts server after = [] := by
  rw [gainedTexts, List.flatMap_eq_nil_iff]
  intro connection _
  rw [unchanged, List.filterMap_nil]

/-- Where one queue accepts one text, that is all that is accepted. -/
theorem gainedTexts_eq_singleton
    {target : ConnectionId}
    {text : String}
    (known : target < server.nextConnection)
    (gained :
      Outbox.gained (server.relay.outbox target) (after.relay.outbox target) = [.text text])
    (others :
      ∀ other,
        other ≠ target →
        Outbox.gained (server.relay.outbox other) (after.relay.outbox other) = []) :
    gainedTexts server after = [text] := by
  obtain ⟨earlier, later, split⟩ := List.append_of_mem (List.mem_range.mpr known)
  have once : target ∉ earlier ∧ target ∉ later := by
    have distinct := List.nodup_range (n := server.nextConnection)
    rw [split, List.nodup_append] at distinct
    obtain ⟨-, distinctLater, apart⟩ := distinct
    exact ⟨fun before => apart target before target List.mem_cons_self rfl,
      (List.nodup_cons.mp distinctLater).1⟩
  have silent (connections : List ConnectionId) (elsewhere : target ∉ connections) :
      (connections.flatMap fun connection =>
        (Outbox.gained (server.relay.outbox connection)
          (after.relay.outbox connection)).filterMap Outgoing.text?) = [] := by
    rw [List.flatMap_eq_nil_iff]
    intro connection member
    rw [others connection fun same => elsewhere (same ▸ member), List.filterMap_nil]
  rw [gainedTexts, split, List.flatMap_append, List.flatMap_cons, silent earlier once.1,
    silent later once.2, gained]
  rfl

/-- Only what is counted as relayed reaches a connection. -/
theorem Counts.relayed_of_reaches
    {counted : List Tally}
    (counts : server.Counts act counted)
    {message : Message}
    {target : ConnectionId}
    (relays : server.Relays act message)
    (reaches : server.relay.Reaches message target) :
    counted = [.relayed message.kind] := by
  cases counts with
  | malformed unread =>
      obtain ⟨decoded, read, -⟩ := relays.of_frame
      rw [unread] at read
      cases read
  | heartbeat read heartbeat =>
      obtain ⟨decoded, readToo, -, unreserved⟩ := relays.of_frame
      rw [read] at readToo
      cases readToo
      exact (MessageKind.ne_heartbeat unreserved heartbeat).elim
  | reserved read _ reserved =>
      obtain ⟨decoded, readToo, -, unreserved⟩ := relays.of_frame
      rw [read] at readToo
      cases readToo
      rw [reserved] at unreserved
      cases unreserved
  | relayed relaysToo =>
      cases relays.unique relaysToo
      rfl
  | refused relaysToo unreached | failed relaysToo unreached =>
      cases relays.unique relaysToo
      exact (unreached target reaches).elim
  | rejected unreached => exact (unreached message target relays reaches).elim
  | met | greeted | ended | expired | written | abandoned => cases relays

/-- Queues accept one text for each message that is counted as relayed. -/
theorem Counts.countP_isRelayed
    {counted : List Tally}
    (counts : server.Counts act counted)
    (stepped : server.step? act = some after) :
    counted.countP (·.isRelayed) =
      (if act.isRelaying then gainedTexts server after else []).length := by
  by_cases reached : ∃ message target,
      server.Relays act message ∧ server.relay.Reaches message target
  · obtain ⟨message, target, relays, reaches⟩ := reached
    have relaying : act.isRelaying = true := by cases relays <;> rfl
    have queued := congrArg Outbox.items (outbox_of_relays stepped relays reaches)
    have accepts := reaches
    obtain ⟨-, -, -, -, -, -, -, -, accepts⟩ := accepts
    rw [counts.relayed_of_reaches relays reaches, if_pos relaying,
      gainedTexts_eq_singleton (Relay.lt_of_receiving accepts.1)
        (Outbox.gained_of_append queued)]
    · rfl
    · intro other different
      refine (gained_of_relaying stepped relaying other).resolve_right ?_
      rintro ⟨same, relaysToo, reachesToo, -⟩
      cases relays.unique relaysToo
      exact different (reachesToo.unique reaches)
  · have nothing : (if act.isRelaying then gainedTexts server after else []) = [] := by
      split
      · next relaying =>
          refine gainedTexts_eq_nil fun connection => ?_
          refine (gained_of_relaying stepped relaying connection).resolve_right ?_
          rintro ⟨message, relays, reaches, -⟩
          exact reached ⟨message, connection, relays, reaches⟩
      · rfl
    rw [nothing]
    cases counts with
    | relayed relays reaches => exact (reached ⟨_, _, relays, reaches⟩).elim
    | greeted | ended => split <;> rfl
    | met | malformed | heartbeat | reserved | refused | failed | rejected | expired | written
    | abandoned => rfl

theorem relayedTexts_concat
    (ran : first.run? acts = some server)
    (stepped : server.step? act = some after) :
    relayedTexts first (acts ++ [act]) =
      relayedTexts first acts ++ if act.isRelaying then gainedTexts server after else [] := by
  induction acts generalizing first with
  | nil =>
      cases ran
      simp [relayedTexts, stepped]
  | cons earlier rest inductionHypothesis =>
      cases begun : first.step? earlier with
      | none =>
          simp [run?, begun] at ran
      | some next =>
          simp only [run?, begun] at ran
          simp only [List.cons_append, relayedTexts, begun, inductionHypothesis ran,
            List.append_assoc]

/-! ## Frames that cannot be decoded -/

theorem Counts.count_malformed
    {counted : List Tally}
    {happening : Happening}
    (counts : server.Counts act counted)
    (happens : server.Happens act happening) :
    counted.count .malformed = [happening].countP (·.isMalformed) := by
  cases happens with
  | @read _ _ octets running =>
      have frameCount := counts.frameCount
      rw [List.countP_singleton, Happening.isMalformed]
      generalize Message.ofOctets octets = result at frameCount ⊢
      cases frameCount <;> rfl
  | requested =>
      have requestCount := counts.requestCount
      cases requestCount <;> rfl
  | met =>
      cases counts with
      | met => rfl
      | relayed relays | refused relays => cases relays
  | greeted =>
      cases counts with
      | greeted => split <;> rfl
      | relayed relays | refused relays => cases relays
  | ended =>
      cases counts with
      | ended => split <;> rfl
      | relayed relays | refused relays => cases relays
  | expired | written | abandoned =>
      cases counts with
      | relayed relays | refused relays => cases relays
      | _ => rfl

/-! ## Handshakes -/

/-- An act that is no handshake counts none. -/
theorem Counts.handshake?_eq_nil
    {counted : List Tally}
    (counts : server.Counts act counted)
    (undialed : ∀ address parameters, act ≠ .dial address parameters) :
    counted.filterMap Tally.handshake? = [] := by
  cases counts with
  | met => exact (undialed _ _ rfl).elim
  | greeted | ended => split <;> rfl
  | malformed | heartbeat | reserved | relayed | refused | failed | rejected | expired | written
  | abandoned => rfl

theorem Counts.handshakes
    {counted : List Tally}
    (counts : server.Counts act counted)
    (stepped : server.step? act = some after) :
    after.meetings.map (·.outcome.label) =
      server.meetings.map (·.outcome.label) ++ counted.filterMap Tally.handshake? := by
  by_cases dialed : ∃ address parameters, act = .dial address parameters
  · obtain ⟨address, parameters, rfl⟩ := dialed
    cases stepped
    cases counts with
    | met => simp [dial, Happening.meeting?, Tally.handshake?]
    | relayed relays | refused relays => cases relays
  · have undialed (address : Option SocketAddress) (parameters : HandshakeParameters)
        (same : act = .dial address parameters) : False :=
      dialed ⟨address, parameters, same⟩
    rw [meetings_of_undialed stepped undialed, counts.handshake?_eq_nil undialed,
      List.append_nil]

/-! ## The gauge -/

/-- The gauge tells how many ids are registered, unless a registration has still to be told. -/
def Gauged (server : Server) : Prop :=
  server.gauge?.getD 0 = server.relay.directory.size ∨
    ∃ meeting ∈ server.meetings,
      meeting.isRegistration = true ∧ meeting.connection ∉ server.greetedConnections

/-- Only what tells of a handshake and the end of a session set the gauge. -/
theorem Counts.active?_eq_nil
    {counted : List Tally}
    (counts : server.Counts act counted)
    (quiet : act.isQuiet = true)
    (greetless : act.greeted? = none) :
    counted.filterMap Tally.active? = [] := by
  cases counts with
  | met | ended => cases quiet
  | greeted => cases greetless
  | malformed | heartbeat | reserved | relayed | refused | failed | rejected | expired | written
  | abandoned => rfl

theorem gauge?_of_told
    {counted : List Tally}
    (told : after.journal.tallies = server.journal.tallies ++ counted) :
    after.gauge? = (counted.filterMap Tally.active?).getLast?.or server.gauge? := by
  rw [gauge?, told, List.filterMap_append, List.getLast?_append, ← gauge?]

/-- What neither sets the gauge nor changes the directory keeps them together. -/
theorem Gauged.kept
    (gauged : Gauged server)
    (gauge : after.gauge? = server.gauge?)
    (directory : after.relay.directory = server.relay.directory)
    (meetings : server.meetings ⊆ after.meetings)
    (untold :
      ∀ meeting ∈ server.meetings,
        meeting.isRegistration = true →
        meeting.connection ∉ server.greetedConnections →
        meeting.connection ∉ after.greetedConnections) :
    Gauged after := by
  rcases gauged with agrees | ⟨meeting, member, registers, notGreeted⟩
  · exact .inl (by rw [gauge, directory, agrees])
  · exact .inr ⟨meeting, meetings member, registers, untold meeting member registers notGreeted⟩

theorem Gauged.dial
    (gauged : Gauged server)
    (reachable : Reachable settings server)
    (address : Option SocketAddress)
    (parameters : HandshakeParameters) :
    Gauged (server.dial address parameters) := by
  have greeted :
      (server.dial address parameters).greetedConnections = server.greetedConnections := by
    simp [Server.dial, Happening.greeted?]
  have gauge : (server.dial address parameters).gauge? = server.gauge? :=
    gauge?_of_told (tallies_advance ..)
  let opened := (server.relay.openConnection address).1
  have meetings : (server.dial address parameters).meetings =
      server.meetings ++ [⟨server.nextConnection, parameters,
        (opened.handshake parameters server.nextConnection).2⟩] :=
    meetings_advance ..
  have directory : (server.dial address parameters).relay.directory =
      (opened.handshake parameters server.nextConnection).1.directory :=
    rfl
  have result := opened.handshake_result parameters server.nextConnection
  generalize opened.handshake parameters server.nextConnection = shaken
    at result meetings directory
  cases result with
  | refused | rebound =>
      exact gauged.kept gauge directory (meetings ▸ List.subset_append_left ..)
        fun _ _ _ notGreeted => greeted ▸ notGreeted
  | registered =>
      have member : _ ∈ (server.dial address parameters).meetings :=
        meetings ▸ List.mem_append_right _ List.mem_cons_self
      refine .inr ⟨_, member, rfl, ?_⟩
      rw [greeted]
      intro told
      obtain ⟨meeting, member, own⟩ := meeting_of_greeted reachable _ told
      exact Nat.ne_of_lt ((Coherent.of_reachable reachable).connection_lt member) own

theorem Gauged.greet
    (gauged : Gauged server)
    (coherent : Coherent server)
    {meeting : Meeting}
    (ungreeted : server.ungreeted? connection = some meeting) :
    Gauged (server.greet meeting) := by
  obtain ⟨member, rfl, notGreeted⟩ := of_ungreeted? ungreeted
  have stepped : server.step? (.greet meeting.connection) = some (server.greet meeting) := by
    simp [step?, ungreeted]
  obtain ⟨books, meetings, -⟩ := quiet_of_step? stepped rfl
  have gauge := gauge?_of_told (server.tallies_greet meeting)
  by_cases registers : meeting.isRegistration = true
  · rw [if_pos registers] at gauge
    left
    rw [gauge, books.directory]
    rfl
  · rw [if_neg registers] at gauge
    refine gauged.kept gauge books.directory (meetings ▸ List.Subset.refl _) ?_
    intro other otherMember otherRegisters otherNotGreeted told
    rw [greetedConnections_of_step? stepped] at told
    rcases List.mem_append.mp told with before | now
    · exact otherNotGreeted before
    · cases coherent.meeting_unique otherMember member (List.mem_singleton.mp now)
      exact registers otherRegisters

theorem Gauged.finish
    (gauged : Gauged server)
    {session : Session} :
    Gauged (server.finish session) := by
  have gauge := gauge?_of_told (server.tallies_finish session)
  by_cases evicted :
      (server.relay.boundEntry? (server.relay.clientId session.client)
        session.connection).isSome
  · rw [if_pos evicted] at gauge
    left
    rw [gauge]
    rfl
  · rw [if_neg evicted] at gauge
    exact gauged.kept gauge (Relay.endSession_of_not_bound evicted).directory
      (meetings_finish server session ▸ List.Subset.refl _)
      fun _ _ _ notGreeted => greetedConnections_finish server session ▸ notGreeted

/-- Every act keeps the gauge and the directory together. -/
theorem Gauged.step
    (gauged : Gauged server)
    (reachable : Reachable settings server)
    (stepped : server.step? act = some after) :
    Gauged after := by
  cases act with
  | dial address parameters =>
      cases stepped
      exact gauged.dial reachable address parameters
  | greet connection =>
      obtain ⟨meeting, ungreeted, rfl⟩ := Option.map_eq_some_iff.mp stepped
      exact gauged.greet (.of_reachable reachable) ungreeted
  | finish connection =>
      obtain ⟨session, -, rfl⟩ := Option.map_eq_some_iff.mp stepped
      exact gauged.finish
  | expire | frame | request | write | abandon =>
      obtain ⟨books, meetings, -⟩ := quiet_of_step? stepped rfl
      obtain ⟨counted, told, counts⟩ := counts_of_step? stepped
      have gauge := gauge?_of_told told
      rw [counts.active?_eq_nil rfl rfl] at gauge
      refine gauged.kept gauge books.directory (meetings ▸ List.Subset.refl _) ?_
      intro _ _ _ notGreeted
      rw [greetedConnections_of_step? stepped]
      simpa [Act.greeted?] using notGreeted

/-! ## Runs -/

/-- The counters agree with what happened, and the gauge with the directory. -/
structure Accounted (settings : Settings) (acts : List Act) (server : Server) : Prop where
  malformed :
    server.journal.tallies.count .malformed = server.history.countP (·.isMalformed)
  relayed :
    server.journal.tallies.countP (·.isRelayed) =
      (relayedTexts (start settings) acts).length
  handshakes :
    server.journal.tallies.filterMap Tally.handshake? = server.meetings.map (·.outcome.label)
  gauged : Gauged server

/-- Every act keeps the accounts. -/
theorem Accounted.step
    (accounted : Accounted settings acts server)
    (ran : (start settings).run? acts = some server)
    (stepped : server.step? act = some after) :
    Accounted settings (acts ++ [act]) after := by
  obtain ⟨counted, told, counts⟩ := counts_of_step? stepped
  obtain ⟨happening, grown, happens⟩ := happens_of_step? stepped
  exact {
    malformed := by
      rw [told, grown, List.count_append, List.countP_append, accounted.malformed,
        counts.count_malformed happens]
    relayed := by
      rw [told, relayedTexts_concat ran stepped, List.countP_append, List.length_append,
        accounted.relayed, counts.countP_isRelayed stepped]
    handshakes := by
      rw [told, List.filterMap_append, accounted.handshakes, counts.handshakes stepped]
    gauged := accounted.gauged.step ⟨acts, ran⟩ stepped
  }

theorem accounted_of_run?
    (ran : (start settings).run? acts = some server) :
    Accounted settings acts server :=
  run_induction (motive := Accounted settings) ⟨rfl, rfl, rfl, .inl rfl⟩
    (fun led accounted stepped => accounted.step led stepped) ran

/-- Handshakes are counted under the labels that they have. -/
theorem Accounted.count_handshake
    (accounted : Accounted settings acts server)
    (label : HandshakeLabel) :
    server.journal.tallies.count (.handshake label) =
      server.meetings.countP (·.outcome.label == label) := by
  have counted := congrArg (List.count label) accounted.handshakes
  rw [List.count_eq_countP, List.countP_filterMap, List.count_eq_countP,
    List.countP_map] at counted
  rw [List.count_eq_countP]
  refine Eq.trans (List.countP_congr fun tally _ => ?_) counted
  cases tally <;> simp [Tally.handshake?]

/--
The counters agree with what happened in a run.  Malformed frames are those that could not be
decoded.  Whatever was counted as relayed is a text that a queue accepted, from a frame or from a
request.  Handshakes are counted by their outcome.  A frame that is read next is counted as
malformed, or if it can be decoded and is no sign of life, once as relayed or as dropped; a sign
of life is not counted.  A request is counted as dropped only if a connection does not take its
message.  The gauge, once it is set, tells how many ids are registered, unless somebody was
registered and has still to be told.
-/
theorem accounting
    (ran : (start settings).run? acts = some server) :
    server.journal.tallies.count .malformed = server.history.countP (·.isMalformed) ∧
      server.journal.tallies.countP (·.isRelayed) =
        (relayedTexts (start settings) acts).length ∧
      (∀ label,
        server.journal.tallies.count (.handshake label) =
          server.meetings.countP (·.outcome.label == label)) ∧
      (∀ connection octets after,
        server.step? (.frame connection octets) = some after →
        ∃ counted,
          after.journal.tallies = server.journal.tallies ++ counted ∧
            FrameCount (Message.ofOctets octets) counted) ∧
      (∀ request after,
        server.step? (.request request) = some after →
        ∃ counted,
          after.journal.tallies = server.journal.tallies ++ counted ∧ RequestCount counted) ∧
      ∀ count,
        server.gauge? = some count →
        (∀ meeting ∈ server.meetings,
          meeting.isRegistration = true → meeting.connection ∈ server.greetedConnections) →
        count = server.relay.directory.size := by
  have accounted := accounted_of_run? ran
  refine ⟨accounted.malformed, accounted.relayed, accounted.count_handshake, ?_, ?_, ?_⟩
  · intro connection octets after stepped
    obtain ⟨counted, told, counts⟩ := counts_of_step? stepped
    exact ⟨counted, told, counts.frameCount⟩
  · intro request after stepped
    obtain ⟨counted, told, counts⟩ := counts_of_step? stepped
    exact ⟨counted, told, counts.requestCount⟩
  · intro count set told
    rcases accounted.gauged with agrees | ⟨meeting, member, registers, notGreeted⟩
    · rwa [set, Option.getD_some] at agrees
    · exact (notGreeted (told meeting member registers)).elim

/-- An offer is relayed, something that is no message is read, and another offer comes after its
destination left.  Then one comes who has another token, one who has another key, and one who
has the token. -/
def offering : List Act :=
  [.dial none ⟨some "a", some "t", some "peerjs"⟩, .greet 0,
    .dial none ⟨some "b", some "t", some "peerjs"⟩, .greet 1,
    .frame 0 (Utf8.encode "\x7b\"type\":\"OFFER\",\"dst\":\"b\"\x7d"),
    .frame 0 (Utf8.encode "OFFER"),
    .finish 1,
    .frame 0 (Utf8.encode "\x7b\"type\":\"OFFER\",\"dst\":\"b\"\x7d"),
    .dial none ⟨some "a", some "u", some "peerjs"⟩, .greet 2,
    .dial none ⟨some "c", some "t", some "rtc"⟩, .greet 3,
    .dial none ⟨some "a", some "t", some "peerjs"⟩, .greet 4]

theorem accounting_of_offering :
    ∃ server,
      (start {}).run? offering = some server ∧
        server.journal.tallies =
          [.handshake .registered, .clientsActive 1, .handshake .registered, .clientsActive 2,
            .relayed .offer, .malformed, .clientsActive 1, .dropped (.failed (.routing "b")),
            .handshake .idTaken, .handshake (.rejected .invalidKey), .handshake .reconnected] ∧
        (relayedTexts (start {}) offering).length = 1 ∧
        server.history.countP (·.isMalformed) = 1 ∧
        server.meetings.countP (·.outcome.label == .registered) = 2 ∧
        server.meetings.countP (·.outcome.label == .reconnected) = 1 ∧
        server.meetings.countP (·.outcome.label == .rejected .invalidKey) = 1 ∧
        server.meetings.countP (·.outcome.label == .idTaken) = 1 ∧
        server.relay.directory.size = 1 := by
  obtain ⟨malformed, relayed, handshakes, -, -, gauge⟩ := @accounting {} _ offering rfl
  exact ⟨_, rfl, rfl, relayed.symm, malformed.symm, (handshakes .registered).symm,
    (handshakes .reconnected).symm, (handshakes (.rejected .invalidKey)).symm,
    (handshakes .idTaken).symm, (gauge 1 rfl (by decide)).symm⟩

end Server

end SignalRelay
