import Mathlib.Data.List.Basic
import SignalRelay.Proofs.Notices

namespace SignalRelay

/-!
# Where what is written comes from

A place in the history stands for what happened there: two frames with the same octets are two
frames.  Everything that a queue accepts is traced to the place at which it did, and a writer
takes things in the order in which its queue accepted them.  So the texts that a connection is
sent from the frames of a session tell of some of these frames, each once and in their order.

A text counts as written once the writer has taken it.  If writing it fails, it is the last one,
since the writer stops.
-/

open List

/-- Something that a queue accepted, and the place in the history at which it did. -/
structure Deposit where
  place : Nat
  item : Outgoing
  deriving Repr, DecidableEq

namespace Happening

/-- Whether a session read a frame. -/
def isFrameOf (session : Session) : Happening → Bool
  | .read reader _ => reader == session
  | _ => false

/-- The text that was written to a connection. -/
def textTo? (connection : ConnectionId) : Happening → Option String
  | .written target item => if target = connection then item.text? else none
  | _ => none

theorem of_isFrameOf
    {session : Session}
    {happening : Happening}
    (isFrame : happening.isFrameOf session = true) :
    ∃ octets, happening = .read session octets := by
  cases happening with
  | read reader octets =>
      exact ⟨octets, congrArg (Happening.read · octets) (by simpa [isFrameOf] using isFrame)⟩
  | met | greeted | expired | requested | ended | written | abandoned =>
      cases isFrame

end Happening

namespace Outbox

theorem receiving_greeted
    (outcome : HandshakeOutcome)
    (outbox : Outbox) :
    (outbox.greeted outcome).receiving = outbox.receiving := by
  cases outcome with
  | registered | idTaken =>
      exact receiving_afterOffer ..
  | reconnected =>
      rfl
  | rejected =>
      exact (receiving_close _).trans (receiving_afterOffer ..)

end Outbox

namespace Server

/-- The places at which a session read a frame. -/
def framePlaces (server : Server) (session : Session) : List Nat :=
  server.history.findIdxs (·.isFrameOf session)

/-- The texts that were written to a connection. -/
def writtenTexts (server : Server) (connection : ConnectionId) : List String :=
  server.history.filterMap (·.textTo? connection)

/-- What the queue of a connection takes in while acts are done to a server, and where. -/
def deposits (connection : ConnectionId) : Server → List Act → List Deposit
  | _, [] => []
  | server, act :: rest =>
      match server.step? act with
      | none => []
      | some after =>
          (Outbox.gained (server.relay.outbox connection) (after.relay.outbox connection)).map
              (Deposit.mk server.history.length) ++
            deposits connection after rest

variable {settings : Settings} {first server after : Server} {acts : List Act} {act : Act}
variable {connection : ConnectionId} {session : Session} {happening : Happening}

/-! ## Places -/

theorem mem_framePlaces_iff
    {place : Nat} :
    place ∈ server.framePlaces session ↔
      ∃ octets, server.history[place]? = some (.read session octets) := by
  rw [framePlaces, List.mem_findIdxs_iff_exists_getElem_pos]
  constructor
  · rintro ⟨inside, isFrame⟩
    obtain ⟨octets, read⟩ := Happening.of_isFrameOf isFrame
    exact ⟨octets, read ▸ List.getElem?_eq_getElem inside⟩
  · rintro ⟨octets, read⟩
    obtain ⟨inside, same⟩ := List.getElem?_eq_some_iff.mp read
    exact ⟨inside, by simp [same, Happening.isFrameOf]⟩

theorem framePlaces_of_grown
    (grown : after.history = server.history ++ [happening])
    (session : Session) :
    after.framePlaces session =
      server.framePlaces session ++
        if happening.isFrameOf session then [server.history.length] else [] := by
  simp only [framePlaces, grown, List.findIdxs_append, List.findIdxs_singleton, Nat.zero_add]

/-- What happens later does not change what happened at a place. -/
theorem mem_framePlaces_of_grown
    (grown : after.history = server.history ++ [happening])
    {place : Nat}
    (before : place < server.history.length) :
    place ∈ after.framePlaces session ↔ place ∈ server.framePlaces session := by
  rw [mem_framePlaces_iff, mem_framePlaces_iff, grown, List.getElem?_append_left before]

/-! ## Deposits -/

theorem items_deposits
    (connection : ConnectionId)
    (first : Server)
    (acts : List Act) :
    (deposits connection first acts).map Deposit.item = accepted connection first acts := by
  induction acts generalizing first with
  | nil =>
      rfl
  | cons act rest inductionHypothesis =>
      cases stepped : first.step? act with
      | none =>
          simp [deposits, accepted, stepped]
      | some after =>
          simp only [deposits, accepted, stepped, List.map_append, List.map_map,
            inductionHypothesis]
          exact congrArg (· ++ _) (List.map_id _)

theorem deposits_concat
    (ran : first.run? acts = some server)
    (stepped : server.step? act = some after)
    (connection : ConnectionId) :
    deposits connection first (acts ++ [act]) =
      deposits connection first acts ++
        (Outbox.gained (server.relay.outbox connection) (after.relay.outbox connection)).map
          (Deposit.mk server.history.length) := by
  induction acts generalizing first with
  | nil =>
      cases ran
      simp [deposits, stepped]
  | cons earlier rest inductionHypothesis =>
      cases begun : first.step? earlier with
      | none =>
          simp [run?, begun] at ran
      | some next =>
          simp only [run?, begun] at ran
          simp only [List.cons_append, deposits, begun, inductionHypothesis ran,
            List.append_assoc]

/-- What a queue accepted at a place, as far as the place is one of some. -/
theorem filter_map_mk
    (items : List Outgoing)
    (place : Nat)
    (chosen : Nat → Bool) :
    (items.map (Deposit.mk place)).filter (chosen ·.place) =
      if chosen place then items.map (Deposit.mk place) else [] := by
  rw [List.filter_map]
  change (items.filter fun _ => chosen place).map (Deposit.mk place) = _
  cases chosen place <;> simp

/-- A connection that was not opened was brought nothing. -/
theorem deposits_of_unopened
    (ran : (start settings).run? acts = some server)
    (unopened : server.nextConnection ≤ connection) :
    deposits connection (start settings) acts = [] := by
  apply List.map_eq_nil_iff.mp
  rw [items_deposits, accepted_of_unopened ran unopened]

/-- What was accepted was accepted at a place that there is. -/
theorem place_lt_of_mem_deposits
    (ran : (start settings).run? acts = some server) :
    ∀ deposit ∈ deposits connection (start settings) acts,
      deposit.place < server.history.length := by
  refine run_induction
    (motive := fun acts server =>
      ∀ deposit ∈ deposits connection (start settings) acts,
        deposit.place < server.history.length)
    (fun _ member => (List.not_mem_nil member).elim) ?_ ran
  intro acts server act after ran held stepped deposit member
  obtain ⟨happening, grown, -⟩ := history_of_step? stepped
  rw [grown, List.length_append]
  rw [deposits_concat ran stepped] at member
  rcases List.mem_append.mp member with earlier | now
  · exact Nat.lt_succ_of_lt (held deposit earlier)
  · obtain ⟨item, -, rfl⟩ := List.mem_map.mp now
    exact Nat.lt_succ_self _

/-- At an earlier place nothing is accepted any more. -/
theorem deposits_at_earlier
    (ran : (start settings).run? acts = some server)
    (stepped : server.step? act = some after)
    {place : Nat}
    (before : place < server.history.length)
    (connection : ConnectionId) :
    (deposits connection (start settings) (acts ++ [act])).filter (·.place == place) =
      (deposits connection (start settings) acts).filter (·.place == place) := by
  have later : ¬ (server.history.length == place) = true :=
    fun same => Nat.ne_of_gt before (eq_of_beq same)
  rw [deposits_concat ran stepped, List.filter_append, filter_map_mk _ _ (· == place),
    if_neg later, List.append_nil]

/-- What an act has a queue accept is all that the queue accepts at the place of the act. -/
theorem deposits_at_now
    (ran : (start settings).run? acts = some server)
    (stepped : server.step? act = some after)
    (connection : ConnectionId) :
    (deposits connection (start settings) (acts ++ [act])).filter
        (·.place == server.history.length) =
      (Outbox.gained (server.relay.outbox connection) (after.relay.outbox connection)).map
        (Deposit.mk server.history.length) := by
  have nothing :
      (deposits connection (start settings) acts).filter
        (·.place == server.history.length) = [] := by
    apply List.filter_eq_nil_iff.mpr
    intro deposit member
    simpa using Nat.ne_of_lt (place_lt_of_mem_deposits ran deposit member)
  rw [deposits_concat ran stepped, List.filter_append, nothing, List.nil_append,
    filter_map_mk _ _ (· == server.history.length), if_pos BEq.rfl]

/-! ## Frames -/

/-- A frame is read by a session that is running. -/
theorem frame_of_step?
    {octets : Octets}
    (stepped : server.step? act = some after)
    (grown : after.history = server.history ++ [.read session octets]) :
    act = .frame session.connection octets ∧
      server.session? session.connection = some session := by
  obtain ⟨happening, sameGrown, happens⟩ := happens_of_step? stepped
  rw [grown, List.append_cancel_left_eq] at sameGrown
  cases sameGrown
  cases happens with
  | read running =>
      obtain ⟨rfl, -⟩ := of_session? running
      exact ⟨rfl, running⟩

/-- Where a session read a frame in an act, the frame is what the act adds to the history. -/
theorem read_of_fromFrame
    (stepped : server.step? act = some after)
    (fromFrame : server.history.length ∈ after.framePlaces session) :
    ∃ octets, after.history = server.history ++ [.read session octets] := by
  obtain ⟨happening, grown, -⟩ := history_of_step? stepped
  obtain ⟨octets, read⟩ := mem_framePlaces_iff.mp fromFrame
  rw [grown, List.getElem?_concat_length] at read
  cases read
  exact ⟨octets, grown⟩

theorem Relays.unique
    {firstMessage secondMessage : Message}
    (firstRelays : server.Relays act firstMessage)
    (secondRelays : server.Relays act secondMessage) :
    firstMessage = secondMessage := by
  cases firstRelays with
  | frame running read =>
      cases secondRelays with
      | frame runningToo readToo =>
          rw [running] at runningToo
          cases runningToo
          rw [read] at readToo
          cases readToo
          rfl
  | request ordered =>
      cases secondRelays with
      | request orderedToo =>
          rw [ordered] at orderedToo
          cases orderedToo
          rfl

/-- What may relay a message has each queue accept nothing or the text of the message. -/
theorem gained_of_relaying
    (stepped : server.step? act = some after)
    (relaying : act.isRelaying = true)
    (connection : ConnectionId) :
    Outbox.gained (server.relay.outbox connection) (after.relay.outbox connection) = [] ∨
      ∃ message,
        server.Relays act message ∧
          server.relay.Reaches message connection ∧
          Outbox.gained (server.relay.outbox connection) (after.relay.outbox connection) =
            [.text message.toText] := by
  rcases outbox_of_relaying stepped relaying connection with
      same | ⟨message, relays, reaches, queued⟩
  · exact .inl (same ▸ Outbox.gained_of_le (Nat.le_refl _))
  · exact .inr ⟨message, relays, reaches,
      Outbox.gained_of_append (congrArg Outbox.items queued)⟩

/-- What may relay a message has at most one queue accept one text. -/
theorem gained_once_of_relaying
    (stepped : server.step? act = some after)
    (relaying : act.isRelaying = true) :
    (∀ connection,
        Outbox.gained (server.relay.outbox connection) (after.relay.outbox connection) = []) ∨
      ∃ target text,
        Outbox.gained (server.relay.outbox target) (after.relay.outbox target) =
            [.text text] ∧
          ∀ other,
            other ≠ target →
            Outbox.gained (server.relay.outbox other) (after.relay.outbox other) = [] := by
  by_cases reached : ∃ target message, server.Relays act message ∧
      server.relay.Reaches message target
  · obtain ⟨target, message, relays, reaches⟩ := reached
    have queued := congrArg Outbox.items (outbox_of_relays stepped relays reaches)
    refine .inr ⟨target, message.toText, Outbox.gained_of_append queued, ?_⟩
    intro other different
    refine (gained_of_relaying stepped relaying other).resolve_right ?_
    rintro ⟨same, relaysToo, reachesToo, -⟩
    cases relays.unique relaysToo
    exact different (reachesToo.unique reaches)
  · left
    intro connection
    refine (gained_of_relaying stepped relaying connection).resolve_right ?_
    rintro ⟨message, relays, reaches, -⟩
    exact reached ⟨connection, message, relays, reaches⟩

/-! ## What queues accept from frames -/

/-- A queue accepted the message of a frame under the id with which its session began. -/
def Carries (server : Server) (session : Session) (deposit : Deposit) : Prop :=
  ∃ meeting id octets message,
    meeting ∈ server.meetings ∧
      meeting.connection = session.connection ∧
      meeting.parameters.id = some id ∧
      server.history[deposit.place]? = some (.read session octets) ∧
      Message.ofOctets octets = .ok message ∧
      deposit.item =
        .text (Message.toText ⟨message.kind, some id, message.destination, message.payload⟩)

/-- At a place at most one queue accepted something, and that was one text. -/
def DepositedOnce (first : Server) (acts : List Act) (place : Nat) : Prop :=
  (∀ connection, (deposits connection first acts).filter (·.place == place) = []) ∨
    ∃ target text,
      (deposits target first acts).filter (·.place == place) = [⟨place, .text text⟩] ∧
        ∀ other,
          other ≠ target →
          (deposits other first acts).filter (·.place == place) = []

/-- What a queue accepted from frames of sessions, traced to the frames. -/
structure Traced (server : Server) (brought : List Deposit) : Prop where
  carried :
    ∀ session,
      ∀ deposit ∈ brought,
        deposit.place ∈ server.framePlaces session →
        server.Carries session deposit
  ordered :
    ∀ session,
      (brought.filter (·.place ∈ server.framePlaces session)).map Deposit.place <+
        server.framePlaces session

/-- What a queue accepted from a frame stays so. -/
theorem Carries.of_step?
    {deposit : Deposit}
    (carries : server.Carries session deposit)
    (stepped : server.step? act = some after) :
    after.Carries session deposit := by
  obtain ⟨meeting, id, octets, message, member, own, presented, read, decoded, same⟩ := carries
  obtain ⟨happening, grown, -⟩ := history_of_step? stepped
  refine ⟨meeting, id, octets, message, (meetings_of_step? stepped).subset member, own,
    presented, ?_, decoded, same⟩
  obtain ⟨inside, -⟩ := List.getElem?_eq_some_iff.mp read
  rw [grown, List.getElem?_append_left inside, read]

/-- What a frame relays carries the id that the session was given. -/
theorem carries_of_relays
    (reachable : Reachable settings server)
    {octets : Octets}
    (stepped : server.step? (.frame session.connection octets) = some after)
    (grown : after.history = server.history ++ [.read session octets])
    {message : Message}
    (relays : server.Relays (.frame session.connection octets) message) :
    after.Carries session ⟨server.history.length, .text message.toText⟩ := by
  cases relays with
  | @frame _ reader _ decoded running read unreserved =>
      have sameReader : reader = session :=
        (Option.some.inj ((frame_of_step? stepped grown).2.symm.trans running)).symm
      subst sameReader
      obtain ⟨client, meeting, known, success, own, -⟩ :=
        (Coherent.of_reachable reachable).of_session? running
      obtain ⟨met, presented, -⟩ := mem_successes.mp success
      refine ⟨meeting, client.id, octets, decoded,
        (meetings_of_step? stepped).subset met, own, presented, ?_, read, ?_⟩
      · rw [grown, List.getElem?_concat_length]
      · rw [Relay.clientId_of_client? known]
        rfl

/-- A frame has a queue accept nothing or the one text that the frame carries. -/
theorem gained_from_frame
    (reachable : Reachable settings server)
    (stepped : server.step? act = some after)
    (fromFrame : server.history.length ∈ after.framePlaces session)
    (connection : ConnectionId) :
    Outbox.gained (server.relay.outbox connection) (after.relay.outbox connection) = [] ∨
      ∃ text,
        Outbox.gained (server.relay.outbox connection) (after.relay.outbox connection) =
            [.text text] ∧
          after.Carries session ⟨server.history.length, .text text⟩ := by
  obtain ⟨octets, grown⟩ := read_of_fromFrame stepped fromFrame
  obtain ⟨rfl, -⟩ := frame_of_step? stepped grown
  rcases gained_of_relaying stepped rfl connection with nothing | ⟨message, relays, -, gained⟩
  · exact .inl nothing
  · exact .inr ⟨message.toText, gained, carries_of_relays reachable stepped grown relays⟩

/-- What was brought from frames stays what was brought from frames. -/
theorem filter_of_grown
    {brought : List Deposit}
    (grown : after.history = server.history ++ [happening])
    (before : ∀ deposit ∈ brought, deposit.place < server.history.length) :
    brought.filter (·.place ∈ after.framePlaces session) =
      brought.filter (·.place ∈ server.framePlaces session) := by
  apply List.filter_congr
  intro deposit member
  exact decide_eq_decide.mpr (mem_framePlaces_of_grown grown (before deposit member))

namespace Traced

variable {brought : List Deposit}

/-- What is brought elsewhere than from a frame leaves what was brought traced. -/
theorem grow
    (traced : Traced server brought)
    (stepped : server.step? act = some after)
    (before : ∀ deposit ∈ brought, deposit.place < server.history.length) :
    Traced after brought where
  carried := by
    obtain ⟨happening, grown, -⟩ := history_of_step? stepped
    intro session deposit member fromFrame
    rw [mem_framePlaces_of_grown grown (before deposit member)] at fromFrame
    exact (traced.carried session deposit member fromFrame).of_step? stepped
  ordered := by
    obtain ⟨happening, grown, -⟩ := history_of_step? stepped
    intro session
    rw [filter_of_grown grown before, framePlaces_of_grown grown]
    exact (traced.ordered session).trans (List.sublist_append_left _ _)

/-- Every act leaves what a queue accepts traced. -/
theorem step
    (ran : (start settings).run? acts = some server)
    (traced : Traced server (deposits connection (start settings) acts))
    (stepped : server.step? act = some after) :
    Traced after (deposits connection (start settings) (acts ++ [act])) := by
  have old := traced.grow stepped (place_lt_of_mem_deposits ran)
  have new (session : Session) (fromFrame : server.history.length ∈ after.framePlaces session) :=
    gained_from_frame ⟨acts, ran⟩ stepped fromFrame connection
  rw [deposits_concat ran stepped]
  generalize Outbox.gained (server.relay.outbox connection)
    (after.relay.outbox connection) = items at new
  refine ⟨fun session deposit member fromFrame => ?_, fun session => ?_⟩
  · rcases List.mem_append.mp member with earlier | now
    · exact old.carried session deposit earlier fromFrame
    · obtain ⟨item, gained, rfl⟩ := List.mem_map.mp now
      rcases new session fromFrame with rfl | ⟨text, rfl, carries⟩
      · cases gained
      · cases List.mem_singleton.mp gained
        exact carries
  · rw [List.filter_append, List.map_append,
      filter_map_mk items _ (· ∈ after.framePlaces session)]
    split
    · next fromFrame =>
        obtain ⟨octets, grown⟩ := read_of_fromFrame stepped (of_decide_eq_true fromFrame)
        have places :
            after.framePlaces session =
              server.framePlaces session ++ [server.history.length] := by
          rw [framePlaces_of_grown grown, if_pos (by simp [Happening.isFrameOf])]
        have atMostOne :
            (items.map (Deposit.mk server.history.length)).map Deposit.place <+
              [server.history.length] := by
          rcases new session (of_decide_eq_true fromFrame) with rfl | ⟨text, rfl, -⟩
          · exact List.nil_sublist _
          · exact List.Sublist.refl _
        rw [filter_of_grown grown (place_lt_of_mem_deposits ran), places]
        exact (traced.ordered session).append atMostOne
    · rw [List.map_nil, List.append_nil]
      exact old.ordered session

theorem of_run?
    (ran : (start settings).run? acts = some server)
    (connection : ConnectionId) :
    Traced server (deposits connection (start settings) acts) := by
  refine run_induction
    (motive := fun acts server =>
      Traced server (deposits connection (start settings) acts))
    ⟨fun _ _ member => (List.not_mem_nil member).elim, fun _ => List.nil_sublist _⟩ ?_ ran
  intro acts server act after ran traced stepped
  exact traced.step ran stepped

end Traced

/-- Every frame is brought to one queue at most, as one text. -/
theorem depositedOnce_of_run?
    (ran : (start settings).run? acts = some server) :
    ∀ session, ∀ place ∈ server.framePlaces session,
      DepositedOnce (start settings) acts place := by
  refine run_induction
    (motive := fun acts server =>
      ∀ session, ∀ place ∈ server.framePlaces session,
        DepositedOnce (start settings) acts place)
    (fun _ _ member => (List.not_mem_nil member).elim) ?_ ran
  intro acts server act after ran held stepped session place fromFrame
  obtain ⟨happening, grown, -⟩ := history_of_step? stepped
  have inside : place < server.history.length + 1 := by
    obtain ⟨octets, read⟩ := mem_framePlaces_iff.mp fromFrame
    obtain ⟨inside, -⟩ := List.getElem?_eq_some_iff.mp read
    simpa [grown] using inside
  rcases Nat.lt_succ_iff_lt_or_eq.mp inside with before | rfl
  · have atPlace := held session place ((mem_framePlaces_of_grown grown before).mp fromFrame)
    simpa only [DepositedOnce, deposits_at_earlier ran stepped before] using atPlace
  · obtain ⟨octets, read⟩ := read_of_fromFrame stepped fromFrame
    obtain ⟨rfl, -⟩ := frame_of_step? stepped read
    simp only [DepositedOnce, deposits_at_now ran stepped]
    rcases gained_once_of_relaying stepped rfl with none | ⟨target, text, one, others⟩
    · exact .inl fun connection => by rw [none connection, List.map_nil]
    · refine .inr ⟨target, text, by rw [one, List.map_singleton], fun other different => ?_⟩
      rw [others other different, List.map_nil]

/-! ## What writers take -/

theorem writtenTexts_of_write
    {item : Outgoing}
    {rest : Outbox}
    (writing : server.writing? connection = some (item, rest))
    (stepped : server.step? (.write connection) = some after) :
    after.writtenTexts connection =
      server.writtenTexts connection ++ item.text?.toList := by
  obtain ⟨happening, grown, happens⟩ := happens_of_step? stepped
  cases happens with
  | written writingToo =>
      rw [writing] at writingToo
      cases writingToo
      rw [writtenTexts, grown, List.filterMap_append]
      cases item <;> simp [writtenTexts, Happening.textTo?, Outgoing.text?]

theorem writtenTexts_of_step?
    (stepped : server.step? act = some after)
    (silent : act ≠ .write connection) :
    after.writtenTexts connection = server.writtenTexts connection := by
  obtain ⟨happening, grown, happens⟩ := happens_of_step? stepped
  have textless : happening.textTo? connection = none := by
    cases happens with
    | written =>
        refine if_neg ?_
        rintro rfl
        exact silent rfl
    | met | greeted | expired | read | requested | ended | abandoned =>
        rfl
  simp [writtenTexts, grown, textless]

/-- A writer took the first of what its queue accepted; all the rest is still in the queue as
long as the writer is there. -/
structure Drained (server : Server) (connection : ConnectionId) (brought taken : List Deposit) :
    Prop where
  first : taken <+: brought
  rest :
    (server.relay.outbox connection).receiving = true →
      brought.map Deposit.item =
        taken.map Deposit.item ++ (server.relay.outbox connection).items
  written : taken.filterMap (·.item.text?) = server.writtenTexts connection

namespace Drained

variable {brought taken : List Deposit}

/-- What a queue accepts besides leaves what its writer took. -/
theorem grow
    (drained : Drained server connection brought taken)
    (stepped : server.step? act = some after)
    (silent : act ≠ .write connection)
    (kept :
      (after.relay.outbox connection).receiving = true →
        (server.relay.outbox connection).receiving = true)
    {items : List Outgoing}
    (grown :
      (after.relay.outbox connection).receiving = true →
        (after.relay.outbox connection).items =
          (server.relay.outbox connection).items ++ items)
    (place : Nat) :
    Drained after connection (brought ++ items.map (Deposit.mk place)) taken where
  first := drained.first.trans (List.prefix_append _ _)
  rest := by
    intro receiving
    have tags : (items.map (Deposit.mk place)).map Deposit.item = items := by
      rw [List.map_map]
      exact List.map_id items
    rw [List.map_append, drained.rest (kept receiving), grown receiving, tags,
      List.append_assoc]
  written := by rw [drained.written, writtenTexts_of_step? stepped silent]

/-- A writer takes what comes next in its queue, or a closing ahead of it. -/
theorem write
    (drained : Drained server connection brought taken)
    (stepped : server.step? (.write connection) = some after)
    {item : Outgoing}
    {rest : Outbox}
    (writing : server.writing? connection = some (item, rest))
    (became : after.relay.outbox connection = rest) :
    ∃ taken, Drained after connection brought taken := by
  obtain ⟨receiving, -, took⟩ := of_writing? writing
  have texts := writtenTexts_of_write writing stepped
  rcases Outbox.next?_eq_some took with ⟨-, rfl, same⟩ | ⟨-, held, -⟩
  · -- The closing that was asked for ahead of the queue was never in the queue.
    refine ⟨taken, drained.first, fun _ => ?_,
      by rw [drained.written, texts]; simp [Outgoing.text?]⟩
    rw [became, same]
    exact drained.rest receiving
  · obtain ⟨later, rfl⟩ := drained.first
    have left := drained.rest receiving
    rw [List.map_append, List.append_cancel_left_eq, held] at left
    obtain ⟨deposit, remaining, rfl, rfl, kept⟩ := List.map_eq_cons_iff.mp left
    refine ⟨taken ++ [deposit], ⟨remaining, by simp⟩, fun _ => ?_, ?_⟩
    · rw [became]
      simp [kept]
    · rw [List.filterMap_append, drained.written, texts]
      cases found : deposit.item.text? <;> simp [found]

/-- After every act the writer has taken the first of what its queue accepted. -/
theorem step
    (ran : (start settings).run? acts = some server)
    (drained : Drained server connection (deposits connection (start settings) acts) taken)
    (stepped : server.step? act = some after) :
    ∃ taken,
      Drained after connection (deposits connection (start settings) (acts ++ [act])) taken := by
  have step := outboxStep_of_step? stepped connection
  rw [deposits_concat ran stepped]
  generalize found : after.relay.outbox connection = outbox at step ⊢
  cases step with
  | kept elsewhere =>
      rw [Outbox.gained_of_le (Nat.le_refl _)]
      refine ⟨taken, drained.grow stepped ?_ (found ▸ id) (fun _ => ?_) _⟩
      · rintro rfl
        exact elsewhere rfl
      · rw [found, List.append_nil]
  | opened fresh =>
      rw [Outbox.gained_of_le (Nat.zero_le _)]
      rw [deposits_of_unopened ran (Nat.le_of_eq fresh.symm)] at drained ⊢
      have nothing := List.prefix_nil.mp drained.first
      subst nothing
      refine ⟨[], List.prefix_refl _, fun _ => by rw [found]; rfl, ?_⟩
      rw [drained.written, writtenTexts_of_step? stepped (by simp)]
  | relayed relays reaches =>
      rw [Outbox.gained_of_append rfl]
      refine ⟨taken, drained.grow stepped ?_ (found ▸ id) (fun _ => by rw [found]; rfl) _⟩
      rintro rfl
      cases relays
  | greeted ungreeted =>
      obtain ⟨told, closing, grown, -, -⟩ := Outbox.items_greeted _ _
      rw [Outbox.gained_of_append grown]
      refine ⟨taken, drained.grow stepped (by simp) ?_ (fun _ => by rw [found, grown]) _⟩
      rw [found, Outbox.receiving_greeted]
      exact id
  | expired | finished =>
      refine ⟨taken, drained.grow stepped (by simp) ?_ (fun _ => ?_) _⟩
      · rw [found, Outbox.receiving_close]
        exact id
      · rw [found, Outbox.items_close]
  | written writing =>
      rw [Outbox.gained_of_le (suffix_of_writing? writing).length_le, List.map_nil,
        List.append_nil]
      exact drained.write stepped writing found
  | abandoned =>
      refine ⟨taken, drained.grow stepped (by simp) ?_ ?_ _⟩
      all_goals
        rw [found]
        intro receiving
        cases receiving

theorem of_run?
    (ran : (start settings).run? acts = some server)
    (connection : ConnectionId) :
    ∃ taken,
      Drained server connection (deposits connection (start settings) acts) taken := by
  refine run_induction
    (motive := fun acts server =>
      ∃ taken, Drained server connection (deposits connection (start settings) acts) taken)
    ⟨[], List.prefix_refl _, ?_, rfl⟩ ?_ ran
  · intro receiving
    cases receiving
  · intro acts server act after ran held stepped
    obtain ⟨taken, drained⟩ := held
    exact drained.step ran stepped

end Drained

/-! ## From frames to connections -/

/--
What a writer wrote comes from the first of what its queue accepted, in that order.  Of this,
what stems from frames of a session tells of some of the frames that the session read, each once
and in the order in which they were read: it is the texts of their messages under the id with
which the session began.  And wherever a session read a frame, at most one of all queues
accepted anything, and that was one text.
-/
theorem relayed_once_in_order
    (ran : (start settings).run? acts = some server) :
    (∀ connection, ∃ taken,
        taken <+: deposits connection (start settings) acts ∧
          taken.filterMap (·.item.text?) = server.writtenTexts connection ∧
          ∀ session,
            (∀ deposit ∈ taken,
                deposit.place ∈ server.framePlaces session →
                server.Carries session deposit) ∧
              (taken.filter (·.place ∈ server.framePlaces session)).map Deposit.place <+
                server.framePlaces session) ∧
      ∀ session, ∀ place ∈ server.framePlaces session,
        DepositedOnce (start settings) acts place := by
  refine ⟨fun connection => ?_, depositedOnce_of_run? ran⟩
  obtain ⟨taken, drained⟩ := Drained.of_run? ran connection
  have traced := Traced.of_run? ran connection
  refine ⟨taken, drained.first, drained.written, fun session => ⟨?_, ?_⟩⟩
  · intro deposit member
    exact traced.carried session deposit (drained.first.subset member)
  · exact ((drained.first.sublist.filter _).map _).trans (traced.ordered session)

/-- When a client reconnects, the next frame to it is brought to its new connection alone. -/
theorem relayed_once_in_order_across_reconnection :
    ∃ acts server taken,
      acts =
          [.dial none ⟨some "a", some "ta", some "peerjs"⟩,
            .dial none ⟨some "b", some "tb", some "peerjs"⟩,
            .greet 0,
            .greet 1,
            .frame 0 (Utf8.encode "\x7b\"type\":\"OFFER\",\"dst\":\"b\"\x7d"),
            .write 1,
            .write 1,
            .dial none ⟨some "b", some "tb", some "peerjs"⟩,
            .frame 0 (Utf8.encode "\x7b\"type\":\"LEAVE\",\"dst\":\"b\"\x7d")] ∧
        (start {}).run? acts = some server ∧
        server.framePlaces ⟨0, 0, 0⟩ = [4, 8] ∧
        deposits 2 (start {}) acts =
          [⟨8, .text "\x7b\"type\":\"LEAVE\",\"src\":\"a\",\"dst\":\"b\"\x7d"⟩] ∧
        taken <+: deposits 1 (start {}) acts ∧
        taken.filterMap (·.item.text?) =
          ["\x7b\"type\":\"OPEN\"\x7d",
            "\x7b\"type\":\"OFFER\",\"src\":\"a\",\"dst\":\"b\"\x7d"] ∧
        (taken.filter (·.place ∈ server.framePlaces ⟨0, 0, 0⟩)).map Deposit.place <+ [4, 8] ∧
        DepositedOnce (start {}) acts 4 ∧
        DepositedOnce (start {}) acts 8 := by
  obtain ⟨writers, once⟩ :=
    @relayed_once_in_order {} _
      [.dial none ⟨some "a", some "ta", some "peerjs"⟩,
        .dial none ⟨some "b", some "tb", some "peerjs"⟩,
        .greet 0,
        .greet 1,
        .frame 0 (Utf8.encode "\x7b\"type\":\"OFFER\",\"dst\":\"b\"\x7d"),
        .write 1,
        .write 1,
        .dial none ⟨some "b", some "tb", some "peerjs"⟩,
        .frame 0 (Utf8.encode "\x7b\"type\":\"LEAVE\",\"dst\":\"b\"\x7d")] rfl
  obtain ⟨taken, first, written, frames⟩ := writers 1
  exact ⟨_, _, taken, rfl, rfl, rfl, rfl, first, written, (frames ⟨0, 0, 0⟩).2,
    once ⟨0, 0, 0⟩ 4 (by decide), once ⟨0, 0, 0⟩ 8 (by decide)⟩

end Server

end SignalRelay
