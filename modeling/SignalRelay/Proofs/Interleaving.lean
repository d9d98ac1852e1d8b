import Mathlib.Data.Finset.Card
import SignalRelay.Proofs.Turns

namespace SignalRelay

/-!
# Turns that interleave

While there is room for all ids, what a turn comes to depends on the earlier turns that concern
the same id, and on nothing else.  Two runs that take the same turns, those of every id in the
same order, therefore come to the same, however the turns of different ids are mixed.
-/

namespace Event

/-- Whether the session of a connection gave up its id when it ended. -/
def eviction? (connection : ConnectionId) : Event → Option Bool
  | .disconnected _ other evicted => if other = connection then some evicted else none
  | _ => none

end Event

namespace Server

/-- What was told of the end of a connection's session. -/
def evictions (server : Server) (connection : ConnectionId) : List Bool :=
  server.journal.events.filterMap (Event.eviction? connection)

/-- Whether a turn came to what is reported, when connections are numbered in the order of some
callers. -/
inductive Told (server : Server) (callers : List Caller) : Turn → Report → Prop where
  | answered
      {caller : Caller}
      {meeting : Meeting}
      (member : meeting ∈ server.meetings)
      (place : meeting.connection = callers.idxOf caller)
      (own : meeting.parameters = caller.parameters) :
      Told server callers (.arrive caller) (.answered meeting.outcome.label)
  | left
      {caller : Caller}
      {evicted : Bool}
      (once : server.evictions (callers.idxOf caller) = [evicted]) :
      Told server callers (.leave caller) (.left evicted)

variable
  {settings : Settings}
  {callers : List Caller}
  {turns : List Turn}
  {server : Server}
  {caller : Caller}

/-- What was told stays told. -/
theorem Told.kept
    {after : Server}
    {turn : Turn}
    {report : Report}
    (told : Told server callers turn report)
    (meetings : server.meetings ⊆ after.meetings)
    (evictions :
      ∀ connection,
        server.evictions connection ≠ [] →
        after.evictions connection = server.evictions connection) :
    Told after callers turn report := by
  cases told with
  | answered member place own =>
      exact .answered (meetings member) place own
  | left once =>
      exact .left ((evictions _ (by simp [once])).trans once)

theorem Told.of_arrive
    {report : Report}
    (told : Told server callers (.arrive caller) report) :
    ∃ meeting ∈ server.meetings,
      meeting.connection = callers.idxOf caller ∧
        meeting.parameters = caller.parameters ∧
        report = .answered meeting.outcome.label := by
  cases told with
  | answered member place own => exact ⟨_, member, place, own, rfl⟩

theorem Told.of_leave
    {report : Report}
    (told : Told server callers (.leave caller) report) :
    ∃ evicted,
      server.evictions (callers.idxOf caller) = [evicted] ∧ report = .left evicted := by
  cases told with
  | left once => exact ⟨_, once, rfl⟩

/-- A server that has followed some turns: its connections are numbered in the order of the
callers, what stands under an id depends on the turns that concern it, and so does what each
turn came to. -/
structure Followed
    (settings : Settings)
    (callers : List Caller)
    (turns : List Turn)
    (server : Server) : Prop where
  coherent : Coherent server
  occupied : Occupied server
  under : server.relay.settings = settings
  parameters :
    server.meetings.map (·.parameters) = (Turn.arrivals turns).map (·.parameters)
  held :
    ∀ id,
      server.relay.holder? id =
        (Seat.holder? settings (some id) turns).map (Seat.client callers id)
  silent :
    ∀ connection, connection ∉ server.endedConnections → server.evictions connection = []
  told :
    ∀ turn ∈ turns,
      ∃ before after,
        turns = before ++ turn :: after ∧
          Told server callers turn
            (Seat.report settings (Seat.holder? settings turn.subject? before) turn)

namespace Followed

theorem start
    (settings : Settings)
    (callers : List Caller) :
    Followed settings callers [] (Server.start settings) where
  coherent := .start settings
  occupied := .of_reachable .start
  under := rfl
  parameters := rfl
  held := fun _ => rfl
  silent := fun _ _ => rfl
  told := fun _ member => absurd member List.not_mem_nil

/-- As many connections were opened as callers arrived. -/
theorem nextConnection
    (followed : Followed settings callers turns server) :
    server.nextConnection = (Turn.arrivals turns).length := by
  have same := congrArg List.length followed.parameters
  rw [List.length_map, List.length_map] at same
  exact followed.coherent.length_meetings.symm.trans same

/-- Who has arrived has the connection that counts the earlier arrivals, and shook hands there. -/
theorem meeting_of_arrived
    (followed : Followed settings callers turns server)
    (inOrder : Turn.arrivals turns <+: callers)
    {meeting : Meeting}
    (member : meeting ∈ server.meetings)
    (own : meeting.connection = callers.idxOf caller) :
    caller ∈ Turn.arrivals turns ∧ meeting.parameters = caller.parameters := by
  obtain ⟨later, rfl⟩ := inOrder
  have early := followed.coherent.connection_lt member
  rw [own, followed.nextConnection] at early
  have arrived : caller ∈ Turn.arrivals turns := by
    apply Decidable.byContradiction
    intro absent
    rw [List.idxOf_append_of_notMem absent] at early
    exact Nat.not_lt.mpr (Nat.le_add_right ..) early
  refine ⟨arrived, ?_⟩
  have place := congrArg (·[meeting.connection]?) followed.parameters
  rw [own, List.idxOf_append_of_mem arrived] at place
  have found := followed.coherent.meeting_at member
  rw [own, List.idxOf_append_of_mem arrived] at found
  simpa [found, List.getElem?_idxOf arrived] using place

/-- There is room for the id of a caller as long as there is for all ids that are presented. -/
theorem room
    (followed : Followed settings callers turns server)
    {id : String}
    (presents : caller.parameters.id = some id)
    (free : server.relay.holder? id = none)
    (enough :
      (Turn.presentedIds (turns ++ [.arrive caller])).toFinset.card ≤ settings.clientLimit) :
    server.relay.directory.size < server.relay.settings.clientLimit := by
  have held :
      insert id server.relay.directory.ids.toFinset ⊆
        (Turn.presentedIds (turns ++ [.arrive caller])).toFinset := by
    intro other member
    rw [List.mem_toFinset]
    rcases Finset.mem_insert.mp member with isNew | isHeld
    · subst isNew
      exact Turn.mem_presentedIds (List.mem_append_right _ List.mem_cons_self) presents
    · have stands : ¬server.relay.holder? other = none := by
        rw [followed.coherent.holder?_eq_none_iff_not_mem, not_not]
        exact List.mem_toFinset.mp isHeld
      rw [followed.held, Option.map_eq_none_iff] at stands
      obtain ⟨seat, seated⟩ := Option.ne_none_iff_exists'.mp stands
      obtain ⟨arrived, presentsOther, -⟩ := Seat.of_holder? seated
      exact Turn.mem_presentedIds (List.mem_append_left _ arrived) presentsOther
  have absent : id ∉ server.relay.directory.ids.toFinset := by
    rw [List.mem_toFinset]
    exact followed.coherent.holder?_eq_none_iff_not_mem.mp free
  have nodup : server.relay.directory.ids.Nodup :=
    Keyed.keys_nodup followed.occupied.ordered
  have counted := Nat.le_trans (Finset.card_le_card held) enough
  rw [Finset.card_insert_of_notMem absent, List.toFinset_card_of_nodup nodup,
    Directory.length_ids] at counted
  exact followed.under ▸ counted

/-- After a turn the id that it concerns has to be held as the turn leaves it, and the others as
before. -/
theorem held_concat
    (followed : Followed settings callers turns server)
    {turn : Turn}
    {after : Relay}
    (own :
      ∀ id,
        turn.subject? = some id →
        after.holder? id =
          (Seat.after settings (Seat.holder? settings (some id) turns) turn).map
            (Seat.client callers id))
    (kept :
      ∀ id, turn.subject? ≠ some id → after.holder? id = server.relay.holder? id)
    (id : String) :
    after.holder? id =
      (Seat.holder? settings (some id) (turns ++ [turn])).map (Seat.client callers id) := by
  by_cases concerns : turn.subject? = some id
  · rw [own id concerns, ← concerns, Seat.holder?_concat_own]
  · rw [kept id concerns, followed.held, Seat.holder?_concat_other concerns]

/-- A handshake ends as it has to for the holder of its id, and leaves the holder that it has to
leave. -/
theorem of_enrolled
    (followed : Followed settings callers turns server)
    (place : callers.idxOf caller = server.nextConnection)
    (room :
      ∀ id,
        caller.parameters.id = some id →
        server.relay.holder? id = none →
        server.relay.directory.size < server.relay.settings.clientLimit)
    {after : Relay}
    {outcome : HandshakeOutcome}
    (enrolled : Enrolled server caller.parameters after outcome) :
    outcome.label =
        Seat.answer settings (Seat.holder? settings caller.parameters.id turns) caller ∧
      ∀ id,
        after.holder? id =
          (Seat.holder? settings (some id) (turns ++ [.arrive caller])).map
            (Seat.client callers id) := by
  have under := followed.under
  subst under
  cases enrolled with
  | unfit failed directory kept =>
      refine ⟨by simp [Seat.answer, failed, HandshakeOutcome.label],
        followed.held_concat (fun id _ => ?_) fun id _ => kept id⟩
      rw [kept, followed.held]
      simp [Seat.after, failed]
  | @rebound credentials reference client passed held own directory bound kept =>
      have presents := (Settings.of_examine passed).1
      rw [followed.held, Option.map_eq_some_iff] at held
      obtain ⟨seat, seated, rfl⟩ := held
      change seat.token = credentials.token at own
      refine ⟨by simp [presents, Seat.answer, passed, seated, own, HandshakeOutcome.label],
        followed.held_concat (fun id same => ?_) fun id other => kept id ?_⟩
      · cases presents.symm.trans same
        rw [bound]
        simp [Seat.after, passed, seated, own, Seat.client, place]
      · rintro rfl
        exact other presents
  | @taken credentials client passed held foreign directory kept =>
      have presents := (Settings.of_examine passed).1
      rw [followed.held, Option.map_eq_some_iff] at held
      obtain ⟨seat, seated, rfl⟩ := held
      change seat.token ≠ credentials.token at foreign
      refine ⟨by simp [presents, Seat.answer, passed, seated, foreign, HandshakeOutcome.label],
        followed.held_concat (fun id same => ?_) fun id _ => kept id⟩
      cases presents.symm.trans same
      rw [kept, followed.held]
      simp [Seat.after, passed, seated, foreign]
  | @registered credentials reference passed free enough directory entered kept =>
      have presents := (Settings.of_examine passed).1
      rw [followed.held, Option.map_eq_none_iff] at free
      refine ⟨by simp [presents, Seat.answer, passed, free, HandshakeOutcome.label],
        followed.held_concat (fun id same => ?_) fun id other => kept id ?_⟩
      · cases presents.symm.trans same
        rw [entered]
        simp [Seat.after, passed, free, Seat.client, place]
      · rintro rfl
        exact other presents
  | crowded passed free full directory kept =>
      exact absurd (room _ (Settings.of_examine passed).1 free) (Nat.not_lt.mpr full)

/-- Somebody arrives. -/
theorem arrive
    (followed : Followed settings callers turns server)
    (fresh : caller ∉ Turn.arrivals turns)
    (inOrder : Turn.arrivals (turns ++ [.arrive caller]) <+: callers)
    (enough :
      (Turn.presentedIds (turns ++ [.arrive caller])).toFinset.card ≤ settings.clientLimit) :
    Followed settings callers (turns ++ [.arrive caller])
      (server.dial caller.address caller.parameters) := by
  have place : callers.idxOf caller = server.nextConnection := by
    obtain ⟨later, rfl⟩ := inOrder
    rw [Turn.arrivals_arrive, List.append_assoc, List.idxOf_append_of_notMem fresh,
      followed.nextConnection]
    simp
  obtain ⟨outcome, meetings, enrolled⟩ :=
    followed.coherent.enrolled caller.address caller.parameters
  obtain ⟨label, held⟩ :=
    followed.of_enrolled place (fun _ presents free => followed.room presents free enough)
      enrolled
  have ended :
      (server.dial caller.address caller.parameters).endedConnections =
        server.endedConnections := by
    simp [dial, Happening.ended?]
  have evictions (connection : ConnectionId) :
      (server.dial caller.address caller.parameters).evictions connection =
        server.evictions connection := by
    simp [Server.evictions, dial, met, Relay.meet, advance, Journal.events,
      JournalEntry.event?]
  exact {
    coherent := followed.coherent.dialed caller.address caller.parameters
    occupied :=
      @Occupied.step _ _ (.dial caller.address caller.parameters) followed.occupied rfl
    under :=
      (server.directoryStep_dial caller.address caller.parameters).2.trans followed.under
    parameters := by
      rw [meetings, List.map_append, followed.parameters, Turn.arrivals_arrive,
        List.map_append]
      rfl
    held := held
    silent := by
      intro connection notEnded
      rw [ended] at notEnded
      rw [evictions]
      exact followed.silent connection notEnded
    told := by
      intro turn member
      rcases List.mem_append.mp member with earlier | now
      · obtain ⟨before, between, rfl, told⟩ := followed.told turn earlier
        exact ⟨before, between ++ [.arrive caller], by simp,
          told.kept (meetings ▸ List.subset_append_left ..) fun connection _ =>
            evictions connection⟩
      · cases List.mem_singleton.mp now
        refine ⟨turns, [], rfl, ?_⟩
        change Told _ callers _ (.answered (Seat.answer settings
          (Seat.holder? settings caller.parameters.id turns) caller))
        rw [← label]
        exact .answered (meetings ▸ List.mem_append_right _ List.mem_cons_self) place.symm rfl
  }

/-- Who holds an id is bound to a connection exactly if it is the own one. -/
theorem bound_iff
    (followed : Followed settings callers turns server)
    (inOrder : Turn.arrivals turns <+: callers)
    (id : String)
    (caller : Caller) :
    (server.relay.holder? id).bind (·.connection) = some (callers.idxOf caller) ↔
      (Seat.holder? settings (some id) turns).map (·.caller) = some caller := by
  rw [followed.held, Option.bind_map, Option.bind_eq_some_iff, Option.map_eq_some_iff]
  refine exists_congr fun seat => and_congr_right fun seated => ?_
  have seatArrived := inOrder.subset (Turn.mem_arrivals.mpr (Seat.of_holder? seated).1)
  change some _ = some _ ↔ _
  rw [Option.some.injEq, List.idxOf_inj seatArrived]

/-- A session ends. -/
theorem leave
    (followed : Followed settings callers turns server)
    (inOrder : Turn.arrivals turns <+: callers)
    {session : Session}
    (running : server.session? (callers.idxOf caller) = some session) :
    Followed settings callers (turns ++ [.leave caller]) (server.finish session) := by
  obtain ⟨meeting, member, id, place, presentsId, heldNow, events⟩ :=
    followed.coherent.left running
  obtain ⟨arrived, own⟩ := followed.meeting_of_arrived inOrder member place
  have presents : caller.parameters.id = some id := own ▸ presentsId
  have bound := followed.bound_iff inOrder id caller
  obtain ⟨ownConnection, notEnded, -⟩ := of_session? running
  have meetings := meetings_finish server session
  have ended :
      (server.finish session).endedConnections =
        server.endedConnections ++ [callers.idxOf caller] :=
    ownConnection ▸ endedConnections_finish ..
  have evictionsOther {connection : ConnectionId} (other : connection ≠ callers.idxOf caller) :
      (server.finish session).evictions connection = server.evictions connection := by
    simp [Server.evictions, events, Event.eviction?, Ne.symm other]
  exact {
    coherent := followed.coherent.finished running
    occupied := by
      refine @Occupied.step _ _ (.finish (callers.idxOf caller)) followed.occupied ?_
      simp [step?, running]
    under := (server.directoryStep_finish session).2.trans followed.under
    parameters := by
      rw [meetings, Turn.arrivals_leave]
      exact followed.parameters
    held := by
      refine followed.held_concat (fun other concerns => ?_) fun other different => ?_
      · cases presents.symm.trans concerns
        rw [heldNow]
        by_cases isBound :
            (Seat.holder? settings (some id) turns).map (·.caller) = some caller
        · rw [if_pos ⟨rfl, bound.mpr isBound⟩]
          simp [Seat.after, isBound]
        · rw [if_neg fun both => isBound (bound.mp both.2), followed.held]
          simp [Seat.after, isBound]
      · rw [heldNow, if_neg]
        rintro ⟨rfl, -⟩
        exact different presents
    silent := by
      intro connection goesOn
      rw [ended, List.mem_append, List.mem_singleton, not_or] at goesOn
      rw [evictionsOther goesOn.2]
      exact followed.silent connection goesOn.1
    told := by
      intro turn member
      rcases List.mem_append.mp member with earlier | now
      · obtain ⟨before, between, rfl, told⟩ := followed.told turn earlier
        refine ⟨before, between ++ [.leave caller], by simp, ?_⟩
        refine told.kept (meetings ▸ List.Subset.refl _) fun connection spoken => ?_
        exact evictionsOther fun same => spoken (same ▸ followed.silent _ notEnded)
      · cases List.mem_singleton.mp now
        refine ⟨turns, [], rfl, ?_⟩
        refine .left ?_
        have silent := followed.silent _ notEnded
        rw [Server.evictions] at silent
        rw [Server.evictions, events, List.filterMap_append, silent]
        change _ = [decide
          ((Seat.holder? settings caller.parameters.id turns).map (·.caller) = some caller)]
        simp [Event.eviction?, presents, bound]
  }

end Followed

/-- A run follows its turns. -/
theorem followed_of_run?
    (distinct : turns.Nodup)
    (inOrder : Turn.arrivals turns <+: callers)
    (enough : (Turn.presentedIds turns).toFinset.card ≤ settings.clientLimit)
    (ran : (start settings).run? (turns.map (Turn.act callers)) = some server) :
    Followed settings callers turns server := by
  induction turns using List.reverseRecOn generalizing server with
  | nil =>
      cases ran
      exact .start settings callers
  | append_singleton turns turn inductionHypothesis =>
      rw [List.map_append, run?_append] at ran
      obtain ⟨middle, led, stepped⟩ := Option.bind_eq_some_iff.mp ran
      have earlier : Turn.arrivals turns <+: callers :=
        .trans (by simp [Turn.arrivals]) inOrder
      have enoughBefore : (Turn.presentedIds turns).toFinset.card ≤ settings.clientLimit := by
        refine Nat.le_trans (Finset.card_le_card ?_) enough
        intro id
        simp only [List.mem_toFinset, Turn.presentedIds, Turn.arrivals, List.filterMap_append,
          List.mem_append]
        exact .inl
      rw [List.nodup_append] at distinct
      have followed := inductionHypothesis distinct.1 earlier enoughBefore led
      cases turn with
      | arrive caller =>
          cases stepped
          refine followed.arrive ?_ inOrder enough
          intro arrived
          exact distinct.2.2 _ (Turn.mem_arrivals.mp arrived) _ List.mem_cons_self rfl
      | leave caller =>
          simp only [List.map_cons, List.map_nil, Turn.act, run?, step?] at stepped
          cases running : middle.session? (callers.idxOf caller) with
          | none =>
              rw [running] at stepped
              cases stepped
          | some session =>
              rw [running] at stepped
              cases stepped
              exact followed.leave earlier running

/-! ## Two orders -/

/-- Turns that concern an id before a turn that comes once are the same in two orders that agree
on that id. -/
theorem holder?_of_ordered
    (settings : Settings)
    {turn : Turn}
    {before between earlier later : List Turn}
    (distinct : (before ++ turn :: between).Nodup)
    (ordered :
      Turn.concerning turn.subject? (before ++ turn :: between) =
        Turn.concerning turn.subject? (earlier ++ turn :: later)) :
    Seat.holder? settings turn.subject? before =
      Seat.holder? settings turn.subject? earlier := by
  have once := (List.nodup_cons.mp (List.nodup_middle.mp distinct)).1
  rw [List.mem_append, not_or] at once
  rw [Turn.concerning_middle, Turn.concerning_middle] at ordered
  have same :
      Turn.concerning turn.subject? before = Turn.concerning turn.subject? earlier :=
    ((List.append_cons_inj_of_notMem (fun member => once.1 (List.mem_of_mem_filter member))
      (fun member => once.2 (List.mem_of_mem_filter member))).mp ordered).1
  rw [Seat.holder?, Seat.holder?, same]

section Orders

variable
  {first second : List Turn}
  {firstCallers secondCallers : List Caller}
  {firstServer secondServer : Server}
  (firstFollowed : Followed settings firstCallers first firstServer)
  (secondFollowed : Followed settings secondCallers second secondServer)
  (ordered : ∀ id, Turn.concerning (some id) first = Turn.concerning (some id) second)

include firstFollowed secondFollowed ordered in
/-- A turn comes to the same in both orders. -/
theorem told_of_ordered
    (distinct : first.Nodup)
    {turn : Turn}
    (member : turn ∈ first)
    (memberToo : turn ∈ second) :
    ∃ report,
      Told firstServer firstCallers turn report ∧
        Told secondServer secondCallers turn report := by
  obtain ⟨before, between, rfl, told⟩ := firstFollowed.told turn member
  obtain ⟨earlier, later, rfl, toldToo⟩ := secondFollowed.told turn memberToo
  refine ⟨_, told, ?_⟩
  suffices same :
      Seat.holder? settings turn.subject? before =
        Seat.holder? settings turn.subject? earlier by
    rw [same]
    exact toldToo
  cases concerns : turn.subject? with
  | none =>
      rw [Seat.holder?_none, Seat.holder?_none]
  | some id =>
      have agreed := ordered id
      rw [← concerns] at agreed ⊢
      exact holder?_of_ordered settings distinct agreed

include firstFollowed secondFollowed ordered in
/-- The same ids are held in both orders. -/
theorem ids_of_ordered :
    firstServer.relay.directory.ids = secondServer.relay.directory.ids := by
  have sameMembers (id : String) :
      id ∈ firstServer.relay.directory.ids ↔ id ∈ secondServer.relay.directory.ids := by
    rw [← not_iff_not, ← firstFollowed.coherent.holder?_eq_none_iff_not_mem,
      ← secondFollowed.coherent.holder?_eq_none_iff_not_mem, firstFollowed.held,
      secondFollowed.held, Option.map_eq_none_iff, Option.map_eq_none_iff, Seat.holder?,
      ordered, Seat.holder?]
  have sorted {server : Server} (occupied : Occupied server) :
      server.relay.directory.ids.Pairwise fun first second =>
        Utf8.precedes first second = true :=
    List.pairwise_map.mpr occupied.ordered
  refine List.Perm.eq_of_pairwise ?_ (sorted firstFollowed.occupied)
    (sorted secondFollowed.occupied) ?_
  · intro id other _ _ before after
    exact absurd (Utf8.precedes_trans before after) (by simp [Utf8.precedes_irrefl])
  · exact (List.perm_ext_iff_of_nodup (Keyed.keys_nodup firstFollowed.occupied.ordered)
      (Keyed.keys_nodup secondFollowed.occupied.ordered)).mpr sameMembers

end Orders

/--
Two runs take the same turns, each caller arriving and leaving at most once, and those that
concern any one id in the same order.  If no more ids are presented than may be registered, every
handshake ends alike in both, the end of every session tells alike whether it gave up its id, and
in the end the same ids are held, with the same tokens and by the same callers.
-/
theorem turns_of_other_ids_commute
    {first second : List Turn}
    {firstServer secondServer : Server}
    (distinct : first.Nodup)
    (same : first.Perm second)
    (ordered : ∀ id, Turn.concerning (some id) first = Turn.concerning (some id) second)
    (enough : (Turn.presentedIds first).toFinset.card ≤ settings.clientLimit)
    (firstRan : (start settings).run? (Turn.acts first) = some firstServer)
    (secondRan : (start settings).run? (Turn.acts second) = some secondServer) :
    (∀ caller,
        .arrive caller ∈ first →
        ∃ meeting ∈ firstServer.meetings, ∃ counterpart ∈ secondServer.meetings,
          meeting.connection = Turn.connection first caller ∧
            counterpart.connection = Turn.connection second caller ∧
            meeting.parameters = caller.parameters ∧
            counterpart.parameters = caller.parameters ∧
            meeting.outcome.label = counterpart.outcome.label) ∧
      (∀ caller,
        .leave caller ∈ first →
        ∃ evicted,
          firstServer.evictions (Turn.connection first caller) = [evicted] ∧
            secondServer.evictions (Turn.connection second caller) = [evicted]) ∧
      firstServer.relay.directory.ids = secondServer.relay.directory.ids ∧
      ∀ id ∈ firstServer.relay.directory.ids,
        ∃ token caller,
          .arrive caller ∈ first ∧
            firstServer.relay.holder? id =
              some ⟨id, token, some (Turn.connection first caller)⟩ ∧
            secondServer.relay.holder? id =
              some ⟨id, token, some (Turn.connection second caller)⟩ := by
  have firstFollowed :=
    followed_of_run? distinct (List.prefix_refl (Turn.arrivals first)) enough firstRan
  have sameIds : (Turn.presentedIds first).Perm (Turn.presentedIds second) :=
    (same.filterMap _).filterMap _
  rw [List.toFinset_eq_of_perm _ _ sameIds] at enough
  have secondFollowed :=
    followed_of_run? (same.nodup_iff.mp distinct) (List.prefix_refl (Turn.arrivals second))
      enough secondRan
  refine ⟨?_, ?_, ids_of_ordered firstFollowed secondFollowed ordered, ?_⟩
  · intro caller member
    obtain ⟨report, told, toldToo⟩ :=
      told_of_ordered firstFollowed secondFollowed ordered distinct member
        (same.subset member)
    obtain ⟨meeting, met, place, own, rfl⟩ := told.of_arrive
    obtain ⟨counterpart, metToo, placeToo, ownToo, agreed⟩ := toldToo.of_arrive
    exact ⟨meeting, met, counterpart, metToo, place, placeToo, own, ownToo,
      Report.answered.inj agreed⟩
  · intro caller member
    obtain ⟨report, told, toldToo⟩ :=
      told_of_ordered firstFollowed secondFollowed ordered distinct member
        (same.subset member)
    obtain ⟨evicted, once, rfl⟩ := told.of_leave
    obtain ⟨evictedToo, onceToo, agreed⟩ := toldToo.of_leave
    cases agreed
    exact ⟨evicted, once, onceToo⟩
  · intro id held
    have stands : ¬firstServer.relay.holder? id = none := by
      rw [firstFollowed.coherent.holder?_eq_none_iff_not_mem, not_not]
      exact held
    rw [firstFollowed.held, Option.map_eq_none_iff] at stands
    obtain ⟨seat, seated⟩ := Option.ne_none_iff_exists'.mp stands
    have seatedToo : Seat.holder? settings (some id) second = some seat := by
      rw [Seat.holder?, ← ordered, ← Seat.holder?, seated]
    refine ⟨seat.token, seat.caller, (Seat.of_holder? seated).1, ?_, ?_⟩
    · rw [firstFollowed.held, seated]
      rfl
    · rw [secondFollowed.held, seatedToo]
      rfl

/-- Whether the other id comes first or second, the first connection of an id that has reconnected
does not give it up when it ends. -/
theorem turns_of_other_ids_commute_around_reconnection :
    ∃ firstServer secondServer evicted,
      (start { clientLimit := 2 }).run?
          [.dial none ⟨some "a", some "s", some "peerjs"⟩,
            .dial none ⟨some "b", some "t", some "peerjs"⟩,
            .dial none ⟨some "a", some "s", some "peerjs"⟩,
            .finish 0] = some firstServer ∧
        (start { clientLimit := 2 }).run?
            [.dial none ⟨some "b", some "t", some "peerjs"⟩,
              .dial none ⟨some "a", some "s", some "peerjs"⟩,
              .dial none ⟨some "a", some "s", some "peerjs"⟩,
              .finish 1] = some secondServer ∧
        firstServer.evictions 0 = [evicted] ∧
        secondServer.evictions 1 = [evicted] ∧
        firstServer.relay.directory.ids = secondServer.relay.directory.ids := by
  let early : Caller := ⟨0, none, ⟨some "a", some "s", some "peerjs"⟩⟩
  let other : Caller := ⟨1, none, ⟨some "b", some "t", some "peerjs"⟩⟩
  let late : Caller := ⟨2, none, ⟨some "a", some "s", some "peerjs"⟩⟩
  obtain ⟨-, ends, sameIds, -⟩ :=
    @turns_of_other_ids_commute { clientLimit := 2 }
      [.arrive early, .arrive other, .arrive late, .leave early]
      [.arrive other, .arrive early, .arrive late, .leave early]
      _ _ (by decide) (.swap ..)
      (by
        intro id
        by_cases isOther : id = "b"
        · subst isOther
          decide
        · simp [Turn.concerning, List.filter_cons, Turn.subject?, Turn.caller, early, other, late,
            Ne.symm isOther])
      (by decide) rfl rfl
  obtain ⟨evicted, once, onceToo⟩ := ends early (by decide)
  exact ⟨_, _, evicted, rfl, rfl, once, onceToo, sameIds⟩

end Server

end SignalRelay
