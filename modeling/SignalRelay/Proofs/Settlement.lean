import SignalRelay.Proofs.Bids

namespace SignalRelay

/-!
# What many handshakes lead to

While no session ends, a server goes from one settlement of the bids made so far to the next.
There is one lemma for each way in which a handshake ends; a run follows from them by induction.
Of rivals for one free id the first is registered, and all others find it taken.
-/

open Bid

/-! ## What bids come to -/

/-- The client that stands under an id after some bids, but for its connection: the one that
stood there before, or the one that the first bid for a new id registers. -/
def Relay.seated? (relay : Relay) (limit : Nat) (bids : List Bid) (id : String) :
    Option Client :=
  (relay.holder? id).or
    (if id ∈ newcomers relay.directory.ids limit bids then
      (bids.find? (·.id == id)).map Bid.client
    else
      none)

/-- What some bids make of the directory. -/
structure Settled (limit : Nat) (bids : List Bid) (before after : Relay) : Prop where
  ids :
    after.directory.ids.Perm
      (before.directory.ids ++ newcomers before.directory.ids limit bids)
  held :
    ∀ id, after.holder? id = (before.seated? limit bids id).map (rebind bids)

section Seats

variable {relay : Relay} {limit : Nat} {bids : List Bid} {bid : Bid} {id : String}

/-- An id that a bid does not register is seated as before. -/
theorem Relay.seated?_concat
    (same :
      id ∈ newcomers relay.directory.ids limit (bids ++ [bid]) ↔
        id ∈ newcomers relay.directory.ids limit bids) :
    relay.seated? limit (bids ++ [bid]) id = relay.seated? limit bids id := by
  unfold seated?
  rw [if_congr same rfl rfl]
  by_cases member : id ∈ newcomers relay.directory.ids limit bids
  · obtain ⟨-, earlier, earlierMember, own⟩ := mem_newcomers member
    have found : (bids.find? (·.id == id)).isSome := by
      simpa using ⟨earlier, earlierMember, own⟩
    rw [List.find?_append, Option.or_of_isSome found]
  · rw [if_neg member, if_neg member]

/-- The first bid for a new id takes the seat. -/
theorem Relay.seated?_concat_new
    (free : relay.holder? bid.id = none)
    (unsought : ∀ earlier ∈ bids, earlier.id ≠ bid.id)
    (registered : bid.id ∈ newcomers relay.directory.ids limit (bids ++ [bid])) :
    relay.seated? limit (bids ++ [bid]) bid.id = some bid.client := by
  have notBefore : bids.find? (·.id == bid.id) = none := by
    simpa using unsought
  unfold seated?
  rw [free, Option.none_or, if_pos registered, List.find?_append, notBefore]
  simp

end Seats

namespace Server

variable {server middle : Server} {limit : Nat} {bids : List Bid}

theorem Coherent.id_of_seated?
    (coherent : Coherent server)
    {id : String}
    {client : Client}
    (seated : server.relay.seated? limit bids id = some client) :
    client.id = id := by
  unfold Relay.seated? at seated
  rcases Option.or_eq_some_iff.mp seated with before | ⟨-, new⟩
  · exact coherent.id_of_holder? before
  · rw [Option.ite_none_right_eq_some] at new
    obtain ⟨first, found, rfl⟩ := Option.map_eq_some_iff.mp new.2
    exact id_of_find? found

/-- Seats are under the ids of the directory and those that are new. -/
theorem Coherent.seated?_eq_none_iff
    (coherent : Coherent server)
    {id : String} :
    server.relay.seated? limit bids id = none ↔
      id ∉ server.relay.directory.ids ∧
        id ∉ newcomers server.relay.directory.ids limit bids := by
  unfold Relay.seated?
  rw [Option.or_eq_none_iff, coherent.holder?_eq_none_iff_not_mem]
  refine and_congr_right fun _ => ?_
  constructor
  · intro nobody member
    obtain ⟨-, bid, bidMember, own⟩ := mem_newcomers member
    rw [if_pos member, Option.map_eq_none_iff, List.find?_eq_none] at nobody
    exact nobody bid bidMember (by simpa using own)
  · intro absent
    rw [if_neg absent]

/-- An id that nobody bid for is held as before. -/
theorem holder?_of_unsought
    {relay : Relay}
    (coherent : Coherent server)
    (settled : Settled limit bids server.relay relay)
    {id : String}
    (unsought : ∀ bid ∈ bids, bid.id ≠ id) :
    relay.holder? id = server.relay.holder? id := by
  have notNew : id ∉ newcomers server.relay.directory.ids limit bids := by
    intro new
    obtain ⟨-, bid, member, own⟩ := mem_newcomers new
    exact unsought bid member own
  rw [settled.held, Relay.seated?, if_neg notNew, Option.or_none]
  cases held : server.relay.holder? id with
  | none =>
      rfl
  | some client =>
      rw [Option.map_some, rebind_of_unsought (coherent.id_of_holder? held ▸ unsought)]

/-- Before anybody bids, everything is settled. -/
theorem settled_nil
    (relay : Relay)
    (limit : Nat) :
    Settled limit [] relay relay where
  ids := by simp [newcomers, freshIds]
  held := by
    intro id
    have unbound : rebind [] = fun client => client := by
      funext client
      simp [rebind, last?]
    simp [Relay.seated?, newcomers, freshIds, unbound]

section Concat

variable
  {bid : Bid}
  {after : Relay}
  (coherent : Coherent server)
  (settled : Settled limit bids server.relay middle.relay)

include settled in
/-- A bid that registers nobody: what is left to show is to whom everybody is bound. -/
theorem settled_concat_of_same
    (same :
      newcomers server.relay.directory.ids limit (bids ++ [bid]) =
        newcomers server.relay.directory.ids limit bids)
    (directory : after.directory = middle.relay.directory)
    (held :
      ∀ id,
        after.holder? id =
          (server.relay.seated? limit bids id).map (rebind (bids ++ [bid]))) :
    Settled limit (bids ++ [bid]) server.relay after where
  ids := by
    rw [directory, same]
    exact settled.ids
  held := by
    intro id
    rw [Relay.seated?_concat (same ▸ Iff.rfl)]
    exact held id

include coherent settled in
/-- Who holds another id is bound as before. -/
theorem holder?_of_other
    {id : String}
    (different : id ≠ bid.id) :
    middle.relay.holder? id =
      (server.relay.seated? limit bids id).map (rebind (bids ++ [bid])) := by
  rw [settled.held id]
  refine Option.map_congr fun client seated => (rebind_concat_other bids ?_).symm
  rintro ⟨same, -⟩
  exact different ((coherent.id_of_seated? seated).symm.trans same.symm)

include coherent settled in
/-- Somebody who is registered bids again with the own token. -/
theorem settled_rebound
    {client : Client}
    (held : middle.relay.holder? bid.id = some client)
    (own : client.token = bid.token)
    (directory : after.directory = middle.relay.directory)
    (bound : after.holder? bid.id = some { client with connection := some bid.connection })
    (kept : ∀ id, id ≠ bid.id → after.holder? id = middle.relay.holder? id) :
    Settled limit (bids ++ [bid]) server.relay after := by
  rw [settled.held, Option.map_eq_some_iff] at held
  obtain ⟨seat, seated, rfl⟩ := held
  have known : ¬server.relay.seated? limit bids bid.id = none := by simp [seated]
  rw [coherent.seated?_eq_none_iff, not_and_or, not_not, not_not] at known
  refine settled_concat_of_same settled (newcomers_concat_known known) directory ?_
  intro id
  by_cases same : id = bid.id
  · subst same
    rw [bound, seated, Option.map_some,
      rebind_concat_own bids (coherent.id_of_seated? seated) own]
  · rw [kept id same]
    exact holder?_of_other coherent settled same

include coherent settled in
/-- Somebody bids for an id that is registered with another token. -/
theorem settled_taken
    {client : Client}
    (held : middle.relay.holder? bid.id = some client)
    (foreign : client.token ≠ bid.token)
    (directory : after.directory = middle.relay.directory)
    (kept : ∀ id, after.holder? id = middle.relay.holder? id) :
    Settled limit (bids ++ [bid]) server.relay after := by
  rw [settled.held, Option.map_eq_some_iff] at held
  obtain ⟨seat, seated, rfl⟩ := held
  have known : ¬server.relay.seated? limit bids bid.id = none := by simp [seated]
  rw [coherent.seated?_eq_none_iff, not_and_or, not_not, not_not] at known
  refine settled_concat_of_same settled (newcomers_concat_known known) directory ?_
  intro id
  rw [kept id]
  by_cases same : id = bid.id
  · subst same
    rw [settled.held, seated, Option.map_some, Option.map_some, rebind_concat_other bids]
    exact fun both => foreign both.2.symm
  · exact holder?_of_other coherent settled same

include settled in
theorem size_of_settled :
    middle.relay.directory.size =
      server.relay.directory.ids.length +
        (newcomers server.relay.directory.ids limit bids).length := by
  rw [← Directory.length_ids, settled.ids.length_eq, List.length_append]

include coherent settled in
/-- Somebody bids for an id that is free while there is room. -/
theorem settled_registered
    {reference : ClientRef}
    (free : middle.relay.holder? bid.id = none)
    (room : middle.relay.directory.size < limit)
    (directory : after.directory = middle.relay.directory.insert bid.id reference)
    (entered : after.holder? bid.id = some bid.client)
    (kept : ∀ id, id ≠ bid.id → after.holder? id = middle.relay.holder? id) :
    Settled limit (bids ++ [bid]) server.relay after := by
  rw [settled.held, Option.map_eq_none_iff, coherent.seated?_eq_none_iff] at free
  obtain ⟨notHeld, new⟩ := free
  rw [size_of_settled settled] at room
  have unsought : ∀ earlier ∈ bids, earlier.id ≠ bid.id := by
    rw [newcomers_of_room room, mem_freshIds, not_and_or, not_not] at new
    exact fun earlier member own => (new.resolve_left notHeld) ⟨earlier, member, own⟩
  have grown := newcomers_concat_new room notHeld new
  have notThere : bid.id ∉ middle.relay.directory.ids := by
    rw [settled.ids.mem_iff, List.mem_append]
    exact not_or.mpr ⟨notHeld, new⟩
  refine ⟨?_, ?_⟩
  · rw [directory, grown, ← List.append_assoc]
    exact (Directory.ids_insert_perm notThere reference).trans (settled.ids.append_right _)
  · intro id
    by_cases same : id = bid.id
    · subst same
      rw [entered, Relay.seated?_concat_new (coherent.holder?_eq_none_iff_not_mem.mpr notHeld)
        unsought (grown ▸ List.mem_append_right _ (List.mem_singleton_self _)),
        Option.map_some, rebind_concat_own bids rfl rfl]
      rfl
    · rw [kept id same, Relay.seated?_concat (by simp [grown, same])]
      exact holder?_of_other coherent settled same

include coherent settled in
/-- Somebody bids for an id that is free when there is no room. -/
theorem settled_crowded
    (free : middle.relay.holder? bid.id = none)
    (full : limit ≤ middle.relay.directory.size)
    (directory : after.directory = middle.relay.directory)
    (kept : ∀ id, after.holder? id = middle.relay.holder? id) :
    Settled limit (bids ++ [bid]) server.relay after := by
  rw [size_of_settled settled] at full
  refine settled_concat_of_same settled (newcomers_concat_full full) directory ?_
  intro id
  rw [kept id]
  by_cases same : id = bid.id
  · subst same
    rw [free]
    rw [settled.held, Option.map_eq_none_iff] at free
    rw [free, Option.map_none]
  · exact holder?_of_other coherent settled same

end Concat

/-! ## Acts -/

/-- A handshake settles what it bids. -/
theorem settled_enrolled
    (coherent : Coherent server)
    (settled : Settled limit bids server.relay middle.relay)
    (limited : middle.relay.settings.clientLimit = limit)
    {parameters : HandshakeParameters}
    {outcome : HandshakeOutcome}
    {after : Relay}
    (enrolled : Enrolled middle parameters after outcome) :
    Settled limit
      (bids ++
        (Meeting.bid? middle.relay.settings
          ⟨middle.nextConnection, parameters, outcome⟩).toList)
      server.relay after := by
  rw [Meeting.bid?_eq]
  cases enrolled with
  | unfit failed directory kept =>
      rw [failed, Option.toList_none, List.append_nil]
      exact ⟨directory ▸ settled.ids, fun id => (kept id).trans (settled.held id)⟩
  | rebound passed held own directory bound kept =>
      rw [passed]
      exact settled_rebound coherent settled held own directory bound kept
  | taken passed held foreign directory kept =>
      rw [passed]
      exact settled_taken coherent settled held foreign directory kept
  | registered passed free room directory entered kept =>
      rw [passed]
      exact settled_registered coherent settled free (limited ▸ room) directory entered kept
  | crowded passed free full directory kept =>
      rw [passed]
      exact settled_crowded coherent settled free (limited ▸ full) directory kept

theorem isQuiet_of_none
    {act : Act}
    (presentsNothing : act.presented? = none)
    (endsNothing : act.finished? = none) :
    act.isQuiet = true := by
  cases act with
  | dial => cases presentsNothing
  | finish => cases endsNothing
  | greet | expire | frame | request | write | abandon => rfl

/-- What handshakes have made of a server since another time. -/
structure Batched
    (before after : Server)
    (presented : List HandshakeParameters)
    (batch : List Meeting) : Prop where
  coherent : Coherent after
  settings : after.relay.settings = before.relay.settings
  meetings : after.meetings = before.meetings ++ batch
  parameters : batch.map (·.parameters) = presented
  settled :
    Settled before.relay.settings.clientLimit
      (batch.filterMap (·.bid? before.relay.settings))
      before.relay after.relay

/-- While no session ends, a run settles the bids of its handshakes. -/
theorem batched_of_run?
    (coherent : Coherent server)
    {acts : List Act}
    {after : Server}
    (ran : server.run? acts = some after)
    (endsNothing : ∀ act ∈ acts, act.finished? = none) :
    ∃ batch, Batched server after (acts.filterMap Act.presented?) batch := by
  revert endsNothing
  refine run_induction
    (motive := fun acts reached =>
      (∀ act ∈ acts, act.finished? = none) →
        ∃ batch, Batched server reached (acts.filterMap Act.presented?) batch)
    ?_ ?_ ran
  · exact fun _ => ⟨[], coherent, rfl, (List.append_nil _).symm, rfl, settled_nil ..⟩
  · intro acts middle act after _ carried stepped endsNothing
    obtain ⟨batch, batched⟩ :=
      carried fun act member => endsNothing act (List.mem_append_left _ member)
    have settings :=
      (directoryStep_of_step? stepped).2.trans batched.settings
    cases presents : act.presented? with
    | none =>
        obtain ⟨books, meetings, -⟩ :=
          quiet_of_step? stepped (isQuiet_of_none presents (endsNothing act (by simp)))
        refine ⟨batch, batched.coherent.step stepped, settings,
          meetings.trans batched.meetings, ?_, ?_, ?_⟩
        · simp [presents, batched.parameters]
        · exact books.directory ▸ batched.settled.ids
        · exact fun id => (books.holder? id).trans (batched.settled.held id)
    | some parameters =>
        cases act <;> cases presents
        next address =>
          cases stepped
          obtain ⟨outcome, meetings, enrolled⟩ :=
            batched.coherent.enrolled address parameters
          refine ⟨batch ++ [⟨middle.nextConnection, parameters, outcome⟩],
            batched.coherent.dialed address parameters, settings, ?_, ?_, ?_⟩
          · rw [meetings, batched.meetings, List.append_assoc]
          · simp [Act.presented?, batched.parameters]
          · have limited := congrArg Settings.clientLimit batched.settings
            have settled := settled_enrolled coherent batched.settled limited enrolled
            rw [batched.settings] at settled
            rw [List.filterMap_append]
            exact settled

/-! ## Contests -/

variable {parameters : HandshakeParameters} {outcome : HandshakeOutcome} {relay : Relay}

/-- A handshake for a free id is registered if there is room. -/
theorem Enrolled.registered_of_free
    (enrolled : Enrolled server parameters relay outcome)
    {credentials : Credentials}
    (passed : server.relay.settings.examine parameters = .ok credentials)
    (free : server.relay.holder? credentials.id = none)
    (room : server.relay.directory.size < server.relay.settings.clientLimit) :
    outcome.label = .registered := by
  cases enrolled with
  | unfit failed =>
      rw [passed] at failed
      cases failed
  | rebound examined held | taken examined held =>
      rw [passed] at examined
      cases examined
      rw [free] at held
      cases held
  | registered =>
      rfl
  | crowded _ _ full =>
      exact absurd room (Nat.not_lt.mpr full)

/-- A handshake for an id that is held with another token finds it taken. -/
theorem Enrolled.idTaken_of_foreign
    (enrolled : Enrolled server parameters relay outcome)
    {credentials : Credentials}
    {client : Client}
    (passed : server.relay.settings.examine parameters = .ok credentials)
    (held : server.relay.holder? credentials.id = some client)
    (foreign : client.token ≠ credentials.token) :
    outcome.label = .idTaken := by
  cases enrolled with
  | unfit failed =>
      rw [passed] at failed
      cases failed
  | rebound examined standing own =>
      rw [passed] at examined
      cases examined
      rw [held] at standing
      cases standing
      exact absurd own foreign
  | taken =>
      rfl
  | registered examined free | crowded examined free =>
      rw [passed] at examined
      cases examined
      rw [held] at free
      cases free

/-- Once somebody has bid for a free id, and there was room, whoever holds it has the token of
the first bid. -/
theorem holder?_of_first
    {first : Bid}
    {later : List Bid}
    (coherent : Coherent server)
    (settled : Settled limit (first :: later) server.relay relay)
    (free : server.relay.holder? first.id = none)
    (room : server.relay.directory.size < limit) :
    ∃ client, relay.holder? first.id = some client ∧ client.token = first.token := by
  have notThere := coherent.holder?_eq_none_iff_not_mem.mp free
  rw [← Directory.length_ids] at room
  have found : (first :: later).find? (·.id == first.id) = some first := by
    simp
  refine ⟨rebind (first :: later) first.client, ?_, rfl⟩
  rw [settled.held, Relay.seated?, free, Option.none_or,
    if_pos (first_mem_newcomers notThere room), found]
  rfl

/-- The first of a batch is registered, and all others find the id taken. -/
def Contested (batch : List Meeting) : Prop :=
  ∀ first rest,
    batch = first :: rest →
      first.outcome.label = .registered ∧ ∀ meeting ∈ rest, meeting.outcome.label = .idTaken

/-- One more who bids for the id, with a token of its own, leaves it so. -/
theorem Contested.next
    {middle : Server}
    {presented : List HandshakeParameters}
    {earlier : List Meeting}
    (contested : Contested earlier)
    (coherent : Coherent server)
    (batched : Batched server middle presented earlier)
    {id : String}
    (free : server.relay.holder? id = none)
    (room : server.relay.directory.size < server.relay.settings.clientLimit)
    (enrolled : Enrolled middle parameters relay outcome)
    {connection : ConnectionId}
    (bidding :
      ∀ meeting ∈ earlier ++ [⟨connection, parameters, outcome⟩],
        ∃ bid, meeting.bid? server.relay.settings = some bid ∧ bid.id = id)
    (apart :
      (List.map (fun meeting : Meeting => meeting.parameters.token)
        (earlier ++ [⟨connection, parameters, outcome⟩])).Nodup) :
    Contested (earlier ++ [⟨connection, parameters, outcome⟩]) := by
  obtain ⟨bid, bids, own⟩ := bidding _ (List.mem_append_right _ List.mem_cons_self)
  obtain ⟨credentials, passed, rfl⟩ := Meeting.examine_of_bid? bids
  have token := Meeting.token_of_bid? bids
  change credentials.id = id at own
  subst own
  rw [← batched.settings] at passed
  cases earlier with
  | nil =>
      rintro first rest ⟨⟩
      refine ⟨enrolled.registered_of_free passed ?_ ?_, by simp⟩
      · rw [holder?_of_unsought coherent batched.settled (by simp), free]
      · rw [size_of_settled batched.settled, batched.settings]
        simpa [newcomers, freshIds] using room
  | cons head tail =>
      rintro first rest ⟨⟩
      rw [List.map_append, List.nodup_append] at apart
      obtain ⟨registered, taken⟩ := contested head tail rfl
      refine ⟨registered, ?_⟩
      intro meeting member
      rcases List.mem_append.mp member with inTail | isLast
      · exact taken meeting inTail
      · cases List.mem_singleton.mp isLast
        -- Whoever holds the id by now has the token of the first.
        obtain ⟨firstBid, firstBids, firstOwn⟩ := bidding head (by simp)
        have settled := batched.settled
        rw [List.filterMap_cons_some firstBids] at settled
        obtain ⟨client, held, sameToken⟩ :=
          holder?_of_first coherent settled (firstOwn ▸ free) room
        rw [firstOwn] at held
        refine enrolled.idTaken_of_foreign passed held ?_
        intro same
        apply apart.2.2 head.parameters.token (by simp) parameters.token (by simp)
        rw [Meeting.token_of_bid? firstBids, token, ← same, sameToken]

/-- Of those who bid for a free id with tokens of their own, the first is registered, and all
others find the id taken. -/
theorem contest_of_run?
    (coherent : Coherent server)
    {acts : List Act}
    {after : Server}
    (ran : server.run? acts = some after)
    (endsNothing : ∀ act ∈ acts, act.finished? = none)
    {id : String}
    (free : server.relay.holder? id = none)
    (room : server.relay.directory.size < server.relay.settings.clientLimit)
    {batch : List Meeting}
    (grown : after.meetings = server.meetings ++ batch)
    (bidding :
      ∀ meeting ∈ batch,
        ∃ bid, meeting.bid? server.relay.settings = some bid ∧ bid.id = id)
    (apart : (batch.map (·.parameters.token)).Nodup) :
    Contested batch := by
  revert endsNothing batch
  refine run_induction
    (motive := fun acts reached =>
      (∀ act ∈ acts, act.finished? = none) →
        ∀ {batch : List Meeting},
          reached.meetings = server.meetings ++ batch →
            (∀ meeting ∈ batch,
              ∃ bid, meeting.bid? server.relay.settings = some bid ∧ bid.id = id) →
            (batch.map (·.parameters.token)).Nodup → Contested batch)
    ?_ ?_ ran
  · intro _ batch grown _ _ first rest same
    rw [List.self_eq_append_right.mp grown] at same
    cases same
  · intro acts middle act after led carried stepped endsNothing batch grown bidding apart
    have goesOn : ∀ act ∈ acts, act.finished? = none :=
      fun act member => endsNothing act (List.mem_append_left _ member)
    obtain ⟨earlier, batched⟩ := batched_of_run? coherent led goesOn
    cases presents : act.presented? with
    | none =>
        obtain ⟨-, meetings, -⟩ :=
          quiet_of_step? stepped (isQuiet_of_none presents (endsNothing act (by simp)))
        exact carried goesOn (meetings ▸ grown) bidding apart
    | some parameters =>
        cases act <;> cases presents
        next address =>
          cases stepped
          obtain ⟨outcome, meetings, enrolled⟩ :=
            batched.coherent.enrolled address parameters
          rw [meetings, batched.meetings, List.append_assoc] at grown
          cases List.append_cancel_left grown
          have apartEarlier := apart
          rw [List.map_append, List.nodup_append] at apartEarlier
          have contested : Contested earlier := carried goesOn batched.meetings
            (fun meeting member => bidding meeting (List.mem_append_left _ member))
            apartEarlier.1
          exact contested.next coherent batched free room enrolled bidding apart

/-- Those who bid for one free id add one id, if there is room. -/
theorem size_of_contest
    {after : Server}
    {presented : List HandshakeParameters}
    {first : Meeting}
    {rest : List Meeting}
    (batched : Batched server after presented (first :: rest))
    {id : String}
    (free : id ∉ server.relay.directory.ids)
    (room : server.relay.directory.size < server.relay.settings.clientLimit)
    (bidding :
      ∀ meeting ∈ first :: rest,
        ∃ bid, meeting.bid? server.relay.settings = some bid ∧ bid.id = id) :
    after.relay.directory.size = server.relay.directory.size + 1 := by
  have one :
      ∀ bid ∈ (first :: rest).filterMap (·.bid? server.relay.settings), bid.id = id := by
    intro bid member
    obtain ⟨meeting, meetingMember, bids⟩ := List.mem_filterMap.mp member
    obtain ⟨same, sameBids, own⟩ := bidding meeting meetingMember
    rw [bids] at sameBids
    cases sameBids
    exact own
  obtain ⟨firstBid, firstBids, -⟩ := bidding first List.mem_cons_self
  have grown := size_of_settled batched.settled
  rw [List.filterMap_cons_some firstBids] at grown one
  rw [← Directory.length_ids] at room
  rw [grown, (newcomers_of_one free room one).length_eq, Directory.length_ids]
  rfl

/-! ## What many handshakes lead to -/

/-- What a directory has become through some bids: which ids it holds, and to which token and
which connection each of them belongs. -/
structure Settlement (limit : Nat) (bids : List Bid) (before after : Relay) : Prop where
  /-- The ids are those from before and the first new ones, as far as there was room. -/
  ids :
    after.directory.ids.Perm
      (before.directory.ids ++ newcomers before.directory.ids limit bids)
  /-- A new id has the token of the first bid for it, and the connection of the last bid for it
  with that token. -/
  registered :
    ∀ id ∈ newcomers before.directory.ids limit bids,
      ∃ first last,
        bids.find? (·.id == id) = some first ∧
          last? bids id first.token = some last ∧
          after.holder? id = some ⟨id, first.token, some last.connection⟩
  /-- An id from before keeps its token, and has the connection of the last bid for it with that
  token; if there is none, it keeps its connection too. -/
  kept :
    ∀ id ∈ before.directory.ids,
      ∃ client,
        before.holder? id = some client ∧
          after.holder? id =
            some ⟨id, client.token,
              ((last? bids id client.token).map (·.connection)).or client.connection⟩

theorem settlement_of_settled
    {relay : Relay}
    (coherent : Coherent server)
    (settled : Settled limit bids server.relay relay) :
    Settlement limit bids server.relay relay := by
  refine ⟨settled.ids, ?_, ?_⟩
  · intro id new
    obtain ⟨notHeld, bid, member, own⟩ := mem_newcomers new
    obtain ⟨first, found⟩ : ∃ first, bids.find? (·.id == id) = some first := by
      apply Option.isSome_iff_exists.mp
      simpa using ⟨bid, member, own⟩
    have firstOwn := id_of_find? found
    have among : first ∈ bids.filter fun bid => bid.id = id ∧ bid.token = first.token := by
      simpa [firstOwn] using List.mem_of_find?_eq_some found
    obtain ⟨last, isLast⟩ : ∃ last, last? bids id first.token = some last := by
      apply Option.isSome_iff_exists.mp
      rw [last?, List.getLast?_isSome]
      exact List.ne_nil_of_mem among
    refine ⟨first, last, found, isLast, ?_⟩
    rw [settled.held, Relay.seated?, coherent.holder?_eq_none_iff_not_mem.mpr notHeld,
      Option.none_or, if_pos new, found, Option.map_some, Option.map_some, rebind]
    simp [Bid.client, firstOwn, isLast]
  · intro id held
    obtain ⟨client, stands⟩ : ∃ client, server.relay.holder? id = some client := by
      apply Option.ne_none_iff_exists'.mp
      rw [ne_eq, coherent.holder?_eq_none_iff_not_mem, not_not]
      exact held
    refine ⟨client, stands, ?_⟩
    rw [settled.held, Relay.seated?, stands, Option.some_or, Option.map_some, rebind,
      coherent.id_of_holder? stands]

/-- New handshakes have the connections that come next. -/
theorem connections_of_grown
    {after : Server}
    {batch : List Meeting}
    (coherent : Coherent server)
    (coherentNow : Coherent after)
    (grown : after.meetings = server.meetings ++ batch) :
    batch.map (·.connection) = List.range' server.nextConnection batch.length := by
  have numbered := coherentNow.numbered
  rw [grown, List.map_append, coherent.numbered] at numbered
  have counted : after.nextConnection = server.nextConnection + batch.length := by
    simpa using (congrArg List.length numbered).symm
  rw [counted, List.range_eq_range', List.range_eq_range', ← List.range'_append_1,
    Nat.zero_add] at numbered
  exact List.append_cancel_left numbered

/-- A server that goes on under other settings. -/
def withSettings (server : Server) (settings : Settings) : Server :=
  { server with relay := { server.relay with settings := settings } }

theorem Coherent.withSettings
    (coherent : Coherent server)
    (settings : Settings) :
    Coherent (server.withSettings settings) where
  numbered := coherent.numbered
  endedKnown := coherent.endedKnown
  given := coherent.given
  held := by
    intro id reference found
    obtain ⟨client, earlier, registration, since, latest, tenure⟩ :=
      coherent.held id reference found
    exact ⟨client, earlier, registration, since, latest,
      ⟨tenure.known, tenure.ownId, tenure.successes, tenure.registered, tenure.reconnected,
        tenure.newest, tenure.bound, tenure.running⟩⟩
  free := coherent.free

/--
Any handshakes can be done one after another, on any server, under any settings.  As long as no
session ends, whatever else is done, every handshake has a connection of its own, and the
directory becomes what the bids say.  If all of some handshakes bid for one free id with different
tokens, and there is room, the first of them is registered, all others find the id taken, and
there is one id more.
-/
theorem handshakes_settle
    {settings : Settings}
    (reachable : Reachable settings server)
    (terms : Settings) :
    (∀ dials : List (Option SocketAddress × HandshakeParameters),
      ∃ after,
        (server.withSettings terms).run? (dials.map fun dial => .dial dial.1 dial.2) =
          some after) ∧
      ∀ acts after,
        (∀ act ∈ acts, act.finished? = none) →
        (server.withSettings terms).run? acts = some after →
        ∃ batch,
          after.meetings = server.meetings ++ batch ∧
            batch.map (·.parameters) = acts.filterMap Act.presented? ∧
            batch.map (·.connection) = List.range' server.nextConnection batch.length ∧
            Settlement terms.clientLimit (batch.filterMap (·.bid? terms))
              server.relay after.relay ∧
            ∀ id first rest,
              batch = first :: rest →
              id ∉ server.relay.directory.ids →
              server.relay.directory.size < terms.clientLimit →
              (∀ meeting ∈ batch, ∃ bid, meeting.bid? terms = some bid ∧ bid.id = id) →
              (batch.map (·.parameters.token)).Nodup →
              first.outcome.label = .registered ∧
                (∀ meeting ∈ rest, meeting.outcome.label = .idTaken) ∧
                after.relay.directory.size = server.relay.directory.size + 1 := by
  have coherent := (Coherent.of_reachable reachable).withSettings terms
  refine ⟨?_, ?_⟩
  · intro dials
    generalize server.withSettings terms = current
    induction dials generalizing current with
    | nil =>
        exact ⟨current, rfl⟩
    | cons dial rest inductionHypothesis =>
        exact inductionHypothesis (current.dial dial.1 dial.2)
  · intro acts after endsNothing ran
    obtain ⟨batch, batched⟩ := batched_of_run? coherent ran endsNothing
    have connections :=
      connections_of_grown coherent batched.coherent batched.meetings
    have settlement := settlement_of_settled coherent batched.settled
    refine ⟨batch, batched.meetings, batched.parameters, connections,
      ⟨settlement.ids, settlement.registered, settlement.kept⟩, ?_⟩
    intro id first rest shape free room bidding apart
    have nobody := coherent.holder?_eq_none_iff_not_mem.mpr free
    obtain ⟨registered, taken⟩ :=
      contest_of_run? coherent ran endsNothing nobody room batched.meetings bidding apart
        first rest shape
    subst shape
    have grown := size_of_contest batched free room bidding
    exact ⟨registered, taken, grown⟩

/-- Two rivals for one id, on a server where somebody is registered already. -/
theorem handshakes_settle_of_rivals :
    ∃ server after first second,
      (start { clientLimit := 2 }).run?
          [.dial none ⟨some "a", some "s", some "peerjs"⟩] = some server ∧
        (server.withSettings { clientLimit := 2 }).run?
            [.dial none ⟨some "b", some "t", some "peerjs"⟩,
              .dial none ⟨some "b", some "u", some "peerjs"⟩] = some after ∧
        after.meetings = server.meetings ++ [first, second] ∧
        first.outcome.label = .registered ∧
        second.outcome.label = .idTaken ∧
        after.relay.directory.size = 2 ∧
        Settlement 2 [⟨1, "b", "t"⟩, ⟨2, "b", "u"⟩] server.relay after.relay := by
  obtain ⟨server, led⟩ :
      ∃ server,
        (start { clientLimit := 2 }).run?
          [.dial none ⟨some "a", some "s", some "peerjs"⟩] = some server :=
    ⟨_, rfl⟩
  obtain ⟨-, settles⟩ :=
    @handshakes_settle server { clientLimit := 2 } ⟨_, led⟩ { clientLimit := 2 }
  cases led
  obtain ⟨batch, grown, -, -, settlement, contest⟩ :=
    settles
      [.dial none ⟨some "b", some "t", some "peerjs"⟩,
        .dial none ⟨some "b", some "u", some "peerjs"⟩]
      _ (by decide) rfl
  have shape :
      batch =
        [⟨1, ⟨some "b", some "t", some "peerjs"⟩, .registered 1⟩,
          ⟨2, ⟨some "b", some "u", some "peerjs"⟩, .idTaken⟩] :=
    List.append_cancel_left (grown.symm.trans rfl)
  subst shape
  obtain ⟨registered, taken, size⟩ :=
    contest "b" _ _ rfl (by decide) (by decide) (by decide) (by decide)
  exact ⟨_, _, _, _, rfl, rfl, grown, registered, taken _ List.mem_cons_self, size, settlement⟩

end Server

end SignalRelay
