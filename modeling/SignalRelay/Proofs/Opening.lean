import SignalRelay.Proofs.Codec
import SignalRelay.Proofs.Notices

namespace SignalRelay

/-!
# What comes before the opening

A client is in the directory from its handshake on, and is told so a moment later.  In between,
other tasks may relay messages to it, and these come first.  The notice that a client is
registered is therefore the first thing that its connection accepts exactly if nothing was
relayed to the connection in that moment.
-/

/-- No client can say that somebody is registered. -/
theorem Unreserved.ne_opened
    {text : String}
    (unreserved : Unreserved text) :
    text ≠ Message.opened.toText := by
  rintro rfl
  obtain ⟨message, same, notReserved⟩ := unreserved
  rw [Message.kind_text_of_toText same] at notReserved
  exact notReserved (by decide)

namespace Act

/-- The connection that an act reads, or whose reading it ends. -/
def reader? : Act → Option ConnectionId
  | .frame connection _ | .finish connection => some connection
  | _ => none

/-- Every connection is told how its handshake ended before it is read. -/
def Orderly (acts : List Act) : Prop :=
  ∀ earlier act later connection,
    acts = earlier ++ act :: later →
    act.reader? = some connection →
    .greet connection ∈ earlier

theorem Orderly.of_append
    {earlier later : List Act}
    (orderly : Orderly (earlier ++ later)) :
    Orderly earlier := by
  intro before act after connection split reads
  exact orderly before act (after ++ later) connection (by simp [split]) reads

theorem orderly_iff
    (acts : List Act) :
    Orderly acts ↔
      ∀ place : Fin acts.length,
        ∀ connection ∈ acts[place].reader?, .greet connection ∈ acts.take place := by
  constructor
  · intro orderly place connection reads
    refine orderly _ acts[place] (acts.drop (place + 1)) connection ?_ reads
    rw [Fin.getElem_fin, List.getElem_cons_drop, List.take_append_drop]
  · rintro inPlace earlier act later connection rfl reads
    have inside : earlier.length < (earlier ++ act :: later).length := by simp
    simpa using inPlace ⟨earlier.length, inside⟩ connection (by simpa using reads)

instance (acts : List Act) : Decidable (Orderly acts) :=
  decidable_of_iff _ (orderly_iff acts).symm

end Act

namespace Server

open Act

/-- A message was relayed to a connection by one of some acts. -/
def RelayedTo (connection : ConnectionId) (first : Server) (acts : List Act)
    (message : Message) : Prop :=
  ∃ before act rest between,
    acts = before ++ act :: rest ∧
      first.run? before = some between ∧
      between.Relays act message ∧
      between.relay.Reaches message connection

theorem RelayedTo.append
    {connection : ConnectionId}
    {first : Server}
    {acts : List Act}
    {message : Message}
    (relayed : RelayedTo connection first acts message)
    (later : List Act) :
    RelayedTo connection first (acts ++ later) message := by
  obtain ⟨before, act, rest, between, rfl, ran, relays⟩ := relayed
  exact ⟨before, act, rest ++ later, between, by simp, ran, relays⟩

variable {settings : Settings} {first server after : Server} {acts : List Act} {act : Act}
variable {connection : ConnectionId}

/-- The connections that were told how their handshake ended are those that acts told. -/
theorem greetedConnections_of_run?
    (ran : (start settings).run? acts = some server) :
    server.greetedConnections = acts.filterMap Act.greeted? := by
  refine run_induction
    (motive := fun acts server => server.greetedConnections = acts.filterMap Act.greeted?)
    rfl ?_ ran
  intro acts server act after _ same stepped
  rw [greetedConnections_of_step? stepped, same, List.filterMap_append]
  cases told : act.greeted? <;> simp [told]

theorem mem_greetedConnections_iff
    (ran : (start settings).run? acts = some server) :
    connection ∈ server.greetedConnections ↔ .greet connection ∈ acts := by
  rw [greetedConnections_of_run? ran, List.mem_filterMap]
  constructor
  · rintro ⟨act, member, greets⟩
    cases act with
    | greet => cases greets; exact member
    | dial | expire | frame | request | finish | write | abandon => cases greets
  · exact fun member => ⟨_, member, rfl⟩

/-- What a run has a connection accept, around one of its acts. -/
theorem accepted_around
    {earlier : List Act}
    {middle : Server}
    (led : first.run? earlier = some middle)
    (stepped : middle.step? act = some after)
    (connection : ConnectionId)
    (later : List Act) :
    accepted connection first (earlier ++ act :: later) =
      accepted connection first earlier ++
        (Outbox.gained (middle.relay.outbox connection) (after.relay.outbox connection) ++
          accepted connection after later) := by
  simp [accepted_append led, accepted, stepped]

/-- What an act relays to a connection is accepted there. -/
theorem accepted_of_relayedTo
    {message : Message}
    (relayed : RelayedTo connection first acts message)
    (ran : first.run? acts = some server) :
    accepted connection first acts ≠ [] := by
  obtain ⟨before, act, rest, between, rfl, led, relays, reaches⟩ := relayed
  obtain ⟨after, stepped, -⟩ := step?_of_run? ran led
  have grown : (after.relay.outbox connection).items =
      (between.relay.outbox connection).items ++ [.text message.toText] :=
    congrArg Outbox.items (outbox_of_relays stepped relays reaches)
  simp [accepted_around led stepped, Outbox.gained_of_append grown]

/-- What an act puts into the queue of a connection that is neither told how its handshake
ended nor read was relayed. -/
theorem gained_of_untouched
    (stepped : server.step? act = some after)
    (ungreeted : connection ∉ after.greetedConnections)
    (unread : act.reader? ≠ some connection) :
    Outbox.gained (server.relay.outbox connection) (after.relay.outbox connection) = [] ∨
      ∃ message,
        server.Relays act message ∧
          server.relay.Reaches message connection ∧
          Outbox.gained (server.relay.outbox connection) (after.relay.outbox connection) =
            [.text message.toText] := by
  rw [greetedConnections_of_step? stepped] at ungreeted
  have step := outboxStep_of_step? stepped connection
  generalize after.relay.outbox connection = outbox at step ⊢
  cases step with
  | kept elsewhere =>
      exact .inl (Outbox.gained_of_le (Nat.le_refl _))
  | opened | abandoned =>
      exact .inl (Outbox.gained_of_le (Nat.zero_le _))
  | relayed relays reaches =>
      exact .inr ⟨_, relays, reaches, Outbox.gained_of_append rfl⟩
  | greeted told =>
      exact (ungreeted (List.mem_append_right _ List.mem_cons_self)).elim
  | expired awaits =>
      exact (ungreeted (List.mem_append_left _ (of_awaitsExpiry awaits).2.1)).elim
  | finished running =>
      exact (unread rfl).elim
  | written writing =>
      exact .inl (Outbox.gained_of_le (suffix_of_writing? writing).length_le)

/-- Before a connection is told how its handshake ended, its queue accepts only messages that
were relayed to it. -/
theorem relayedTo_of_accepted
    (ran : (start settings).run? acts = some server)
    (orderly : Orderly acts)
    (ungreeted : connection ∉ server.greetedConnections) :
    ∀ item ∈ accepted connection (start settings) acts,
      ∃ message,
        item = .text message.toText ∧
          RelayedTo connection (start settings) acts message := by
  revert orderly ungreeted
  refine run_induction
    (motive := fun acts server =>
      Orderly acts →
      connection ∉ server.greetedConnections →
      ∀ item ∈ accepted connection (start settings) acts,
        ∃ message,
          item = .text message.toText ∧
            RelayedTo connection (start settings) acts message)
    (fun _ _ _ member => (List.not_mem_nil member).elim) ?_ ran
  intro acts server act after ran held stepped orderly ungreeted item member
  have before : connection ∉ server.greetedConnections := by
    intro greeted
    rw [greetedConnections_of_step? stepped] at ungreeted
    exact ungreeted (List.mem_append_left _ greeted)
  have unread : act.reader? ≠ some connection := fun reads =>
    before ((mem_greetedConnections_iff ran).mpr (orderly acts act [] connection rfl reads))
  rw [accepted_concat ran stepped] at member
  rcases List.mem_append.mp member with earlier | now
  · obtain ⟨message, same, relayed⟩ := held orderly.of_append before item earlier
    exact ⟨message, same, relayed.append [act]⟩
  · rcases gained_of_untouched stepped ungreeted unread with
        nothing | ⟨message, relays, reaches, gained⟩
    · rw [nothing] at now
      cases now
    · rw [gained] at now
      exact ⟨message, List.mem_singleton.mp now, acts, act, [], server, rfl, ran, relays,
        reaches⟩

/-! ## The first thing that a connection accepts -/

/-- In an empty queue there is room for the notice that a client is registered. -/
theorem gained_of_registration
    {outbox : Outbox}
    (receiving : outbox.receiving = true)
    (empty : outbox.items = [])
    {meeting : Meeting}
    (registered : meeting.isRegistration = true) :
    Outbox.gained outbox (outbox.greeted meeting.outcome) = [.text Message.opened.toText] := by
  obtain ⟨items, _, signal⟩ := outbox
  obtain ⟨connection, parameters, outcome⟩ := meeting
  cases receiving
  cases empty
  cases outcome with
  | registered client => rfl
  | reconnected | rejected | idTaken => cases registered

/-- Being told how the handshake ended is all that a greeting does to the outbox. -/
theorem outbox_of_greet
    (stepped : server.step? (.greet connection) = some after) :
    ∃ meeting,
      server.ungreeted? connection = some meeting ∧
        after.relay.outbox connection =
          (server.relay.outbox connection).greeted meeting.outcome := by
  obtain ⟨meeting, ungreeted, rfl⟩ := Option.map_eq_some_iff.mp stepped
  obtain ⟨-, rfl, -⟩ := of_ungreeted? ungreeted
  exact ⟨meeting, ungreeted, Relay.outbox_greet_same ..⟩

/-- A connection that accepts the notice first was told while its writer was there, and nothing
had been relayed to it. -/
theorem of_opened_first
    (ran : (start settings).run? acts = some server)
    (openedFirst :
      (accepted connection (start settings) acts).head? = some (.text Message.opened.toText)) :
    ∃ earlier later middle,
      acts = earlier ++ .greet connection :: later ∧
        (start settings).run? earlier = some middle ∧
        (middle.relay.outbox connection).receiving = true ∧
        ∀ message, ¬ RelayedTo connection (start settings) earlier message := by
  have heard : .text Message.opened.toText ∈ accepted connection (start settings) acts :=
    List.mem_of_head? openedFirst
  have mem_texts {first : Server} {acts : List Act}
      (member : .text Message.opened.toText ∈ accepted connection first acts) :
      Message.opened.toText ∈ texts connection first acts :=
    List.mem_filterMap.mpr ⟨_, member, rfl⟩
  rcases said_of_run? ran connection with ⟨-, unreserved⟩ | ⟨-, met, -, -, said⟩
  · exact ((unreserved _ (mem_texts heard)).ne_opened rfl).elim
  cases said with
  | untold unreserved =>
      exact ((unreserved _ (mem_texts heard)).ne_opened rfl).elim
  | @told earlier later middle greeted led stepped unreserved notified =>
      rw [accepted_around led stepped] at openedFirst heard
      have notBefore :
          .text Message.opened.toText ∉ accepted connection (start settings) earlier :=
        fun member =>
          (unreserved _ (List.mem_append_left _ (mem_texts member))).ne_opened rfl
      have notAfter : .text Message.opened.toText ∉ accepted connection greeted later :=
        fun member =>
          (unreserved _ (List.mem_append_right _ (mem_texts member))).ne_opened rfl
      refine ⟨earlier, later, middle, rfl, led, ?_, fun message relayed => ?_⟩
      · -- An outbox that nobody takes from is left alone by the greeting.
        obtain ⟨meeting, -, told⟩ := outbox_of_greet stepped
        apply (Bool.not_eq_false _).mp
        intro idle
        rw [told, Outbox.greeted_of_not_receiving idle, Outbox.gained_of_le (Nat.le_refl _),
          List.nil_append] at heard
        exact (List.mem_append.mp heard).elim notBefore notAfter
      · cases before : accepted connection (start settings) earlier with
        | nil =>
            exact accepted_of_relayedTo relayed led before
        | cons item rest =>
            rw [before] at openedFirst notBefore
            cases openedFirst
            exact notBefore List.mem_cons_self

/-- The notice comes first to a connection that is told while its writer is there, if nothing
was relayed to it before. -/
theorem opened_first
    {earlier later : List Act}
    {middle : Server}
    {meeting : Meeting}
    (ran :
      (start settings).run? (earlier ++ .greet meeting.connection :: later) = some server)
    (orderly : Orderly (earlier ++ .greet meeting.connection :: later))
    (member : meeting ∈ server.meetings)
    (registered : meeting.isRegistration = true)
    (led : (start settings).run? earlier = some middle)
    (receiving : (middle.relay.outbox meeting.connection).receiving = true)
    (untouched : ∀ message, ¬ RelayedTo meeting.connection (start settings) earlier message) :
    (accepted meeting.connection (start settings)
      (earlier ++ .greet meeting.connection :: later)).head? =
        some (.text Message.opened.toText) := by
  obtain ⟨greeted, stepped, followed⟩ := step?_of_run? ran led
  obtain ⟨other, ungreeted, told⟩ := outbox_of_greet stepped
  obtain ⟨met, own, notGreeted⟩ := of_ungreeted? ungreeted
  have metLater : other ∈ server.meetings :=
    ((history_of_run? followed).filterMap _).subset ((meetings_of_step? stepped).subset met)
  have same : other = meeting :=
    (Coherent.of_reachable ⟨_, ran⟩).meeting_unique metLater member own
  have nothing : accepted meeting.connection (start settings) earlier = [] := by
    apply List.eq_nil_iff_forall_not_mem.mpr
    intro item accepted
    obtain ⟨message, -, relayed⟩ :=
      relayedTo_of_accepted led orderly.of_append notGreeted item accepted
    exact untouched message relayed
  have empty : (middle.relay.outbox meeting.connection).items = [] :=
    List.suffix_nil.mp (nothing ▸ items_suffix_accepted led meeting.connection)
  rw [accepted_around led stepped, nothing, told, same,
    gained_of_registration receiving empty registered]
  rfl

/--
The notice that a client is registered is the first thing that its connection accepts exactly
if the connection is told while its writer is there and nothing was relayed to it before.
-/
theorem opened_first_iff
    {meeting : Meeting}
    (ran : (start settings).run? acts = some server)
    (orderly : Orderly acts)
    (member : meeting ∈ server.meetings)
    (registered : meeting.isRegistration = true) :
    (accepted meeting.connection (start settings) acts).head? =
        some (.text Message.opened.toText) ↔
      ∃ earlier later middle,
        acts = earlier ++ .greet meeting.connection :: later ∧
          (start settings).run? earlier = some middle ∧
          (middle.relay.outbox meeting.connection).receiving = true ∧
          ∀ message, ¬ RelayedTo meeting.connection (start settings) earlier message := by
  constructor
  · exact of_opened_first ran
  · rintro ⟨earlier, later, middle, rfl, led, receiving, untouched⟩
    exact opened_first ran orderly member registered led receiving untouched

/-- An offer that is relayed to a client between its handshake and the notice of that overtakes
the notice. -/
theorem opened_first_iff_of_overtaking_offer :
    ∃ acts server,
      acts =
          [.dial none ⟨some "a", some "ta", some "peerjs"⟩,
            .dial none ⟨some "b", some "tb", some "peerjs"⟩,
            .greet 1,
            .frame 1 (Utf8.encode "\x7b\"type\":\"OFFER\",\"dst\":\"a\"\x7d"),
            .greet 0] ∧
        (start {}).run? acts = some server ∧
        Orderly acts ∧
        accepted 0 (start {}) acts =
          [.text "\x7b\"type\":\"OFFER\",\"src\":\"b\",\"dst\":\"a\"\x7d",
            .text "\x7b\"type\":\"OPEN\"\x7d"] ∧
        ¬ ∃ earlier later middle,
          acts = earlier ++ .greet 0 :: later ∧
            (start {}).run? earlier = some middle ∧
            (middle.relay.outbox 0).receiving = true ∧
            ∀ message, ¬ RelayedTo 0 (start {}) earlier message := by
  have orderly : Orderly
      [.dial none ⟨some "a", some "ta", some "peerjs"⟩,
        .dial none ⟨some "b", some "tb", some "peerjs"⟩,
        .greet 1,
        .frame 1 (Utf8.encode "\x7b\"type\":\"OFFER\",\"dst\":\"a\"\x7d"),
        .greet 0] := by decide
  have first := @opened_first_iff {} _ _
    ⟨0, ⟨some "a", some "ta", some "peerjs"⟩, .registered 0⟩ rfl orderly
    List.mem_cons_self rfl
  exact ⟨_, _, rfl, rfl, orderly, rfl, fun split => absurd (first.mpr split) (by decide)⟩

end Server

end SignalRelay
