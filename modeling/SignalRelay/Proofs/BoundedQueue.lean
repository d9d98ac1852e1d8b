import SignalRelay.Proofs.Queues

namespace SignalRelay

/-!
# A queue and its receiving end

Some send on a connection and close it, and somebody else has the receiving end of its queue, and
drains it or drops it.  A run of the queue keeps what was accepted and what was drained, each as
the one who did it learns of it.

`QueueRun.InOrder` relates the two to what is queued; every act preserves it.
-/

/-- What can be done with a connection and with the receiving end of its queue. -/
inductive QueueAct where
  | send : Message → QueueAct
  | sendText : String → QueueAct
  | close : QueueAct
  /-- Up to a number of items are taken. -/
  | drain : Nat → QueueAct
  /-- The receiving end is dropped. -/
  | drop : QueueAct

/-- A relay with what has happened to the queue of one of its connections. -/
structure QueueRun where
  relay : Relay
  /-- What was accepted, in order. -/
  accepted : List Outgoing
  /-- What was drained, in order. -/
  drained : List Outgoing

namespace QueueRun

/-- A text was sent, and was accepted unless the sender was told otherwise. -/
def sent (run : QueueRun) (text : String) : Relay × Except RelayError Unit → QueueRun
  | (relay, .ok ()) => { run with relay, accepted := run.accepted ++ [.text text] }
  | (relay, .error _) => { run with relay }

/-- Do one thing with a connection or with the receiving end of its queue.  One who closes is told
nothing; the closing is accepted if there is somebody who receives, and room. -/
def act (connection : ConnectionId) (run : QueueRun) : QueueAct → QueueRun
  | .send message => run.sent message.toText (run.relay.sendMessage connection message)
  | .sendText text => run.sent text (run.relay.sendText connection text)
  | .close =>
      { run with
        relay := run.relay.closeConnection connection
        accepted :=
          if (run.relay.outbox connection).Accepts then
            run.accepted ++ [.close]
          else
            run.accepted }
  | .drain count =>
      let (items, outbox) := (run.relay.outbox connection).take count
      { run with
        relay := run.relay.withOutbox connection outbox
        drained := run.drained ++ items }
  | .drop =>
      { run with
        relay := run.relay.withOutbox connection (run.relay.outbox connection).discard }

/-- Do one thing after another. -/
def perform (connection : ConnectionId) (run : QueueRun) (acts : List QueueAct) : QueueRun :=
  acts.foldl (act connection) run

/-- A connection that has just been opened. -/
def opened (relay : Relay) (address : Option SocketAddress) : QueueRun :=
  ⟨(relay.openConnection address).1, [], []⟩

end QueueRun

namespace Relay

variable {relay : Relay} {connection : ConnectionId} {text : String}

/-! ## Sending -/

/-- What a text that is sent on a connection does, and what its sender is told. -/
structure Sends (relay : Relay) (connection : ConnectionId) (text : String)
    (result : Relay × Except RelayError Unit) : Prop where
  succeeds :
    result.2 = .ok () ↔
      (relay.outbox connection).receiving = true ∧
        (relay.outbox connection).items.length < 256
  queued :
    result.2 = .ok () →
    (result.1.outbox connection).items = (relay.outbox connection).items ++ [.text text]
  full :
    result.2 = .error (.transport (connection.name ++ " outbound queue is full")) ↔
      (relay.outbox connection).receiving = true ∧
        256 ≤ (relay.outbox connection).items.length
  closed :
    result.2 = .error (.transport (connection.name ++ " is closed")) ↔
      (relay.outbox connection).receiving = false
  /-- A refused text changes nothing. -/
  refused :
    result.2 ≠ .ok () →
    result.1 = relay

/-- The failures to queue something on a connection are told apart. -/
theorem sendError_injective
    (connection : ConnectionId) :
    Function.Injective (sendError connection) := by
  intro first second same
  cases first with
  | full =>
      cases second with
      | full => rfl
      | closed => simp [sendError] at same
  | closed =>
      cases second with
      | full => simp [sendError] at same
      | closed => rfl

theorem sends_sendText
    (relay : Relay)
    (connection : ConnectionId)
    (text : String) :
    Sends relay connection text (relay.sendText connection text) := by
  cases found : (relay.outbox connection).fault? with
  | none =>
      have accepts := (Outbox.fault?_eq_none_iff _).mp found
      rw [sendText_of_accepts accepts]
      exact {
        succeeds := ⟨fun _ => accepts, fun _ => rfl⟩
        queued := fun _ => congrArg Outbox.items (outbox_queued_same accepts text)
        full := ⟨nofun, fun full => (Nat.not_lt.mpr full.2 accepts.2).elim⟩
        closed := ⟨nofun, fun idle => by rw [accepts.1] at idle; cases idle⟩
        refused := fun refused => (refused rfl).elim
      }
  | some fault =>
      have refused :
          relay.sendText connection text = (relay, .error (sendError connection fault)) := by
        simp only [sendText, Outbox.offer, found]
      have isFault (other : OutboxFault) :
          Except.error (sendError connection fault) =
              (Except.error (sendError connection other) : Except RelayError Unit) ↔
            fault = other := by
        rw [Except.error.injEq, (sendError_injective connection).eq_iff]
      have notOk :
          Except.error (sendError connection fault) ≠ (.ok () : Except RelayError Unit) := by
        intro same
        cases same
      have cause := Outbox.of_fault? found
      rw [refused]
      exact {
        succeeds := by
          refine ⟨fun isOk => (notOk isOk).elim, fun accepts => ?_⟩
          rcases cause with ⟨-, idle⟩ | ⟨-, -, full⟩
          · rw [accepts.1] at idle
            cases idle
          · exact (Nat.not_lt.mpr full accepts.2).elim
        queued := fun isOk => (notOk isOk).elim
        full := by
          refine (isFault .full).trans ?_
          rcases cause with ⟨rfl, idle⟩ | ⟨rfl, receiving, full⟩
          · simp [idle]
          · exact ⟨fun _ => ⟨receiving, full⟩, fun _ => rfl⟩
        closed := by
          refine (isFault .closed).trans ?_
          rcases cause with ⟨rfl, idle⟩ | ⟨rfl, receiving, -⟩
          · simp [idle]
          · simp [receiving]
        refused := fun _ => rfl
      }

end Relay

theorem Outbox.not_accepts_of_idle
    {outbox : Outbox}
    (idle : outbox.receiving = false) :
    ¬outbox.Accepts := by
  simp [Accepts, idle]

/-! ## What acts do -/

namespace QueueAct

/-- The item that an act puts into a queue if there is room. -/
def item? : QueueAct → Option Outgoing
  | .send message => some (.text message.toText)
  | .sendText text => some (.text text)
  | .close => some .close
  | .drain _ => none
  | .drop => none

/-- What an act makes of an outbox. -/
def effect (act : QueueAct) (outbox : Outbox) : Outbox :=
  match act with
  | .send message => outbox.afterOffer (.text message.toText)
  | .sendText text => outbox.afterOffer (.text text)
  | .close => outbox.close
  | .drain count => (outbox.take count).2
  | .drop => outbox.discard

/-- What an act puts into a queue. -/
def added (act : QueueAct) (outbox : Outbox) : List Outgoing :=
  if outbox.Accepts then act.item?.toList else []

/-- What an act takes out of a queue. -/
def taken (act : QueueAct) (outbox : Outbox) : List Outgoing :=
  match act with
  | .drain count => outbox.items.take count
  | .send _ | .sendText _ | .close | .drop => []

variable {act : QueueAct} {outbox : Outbox}

theorem receiving_effect_iff
    (act : QueueAct)
    (outbox : Outbox) :
    (act.effect outbox).receiving = true ↔ outbox.receiving = true ∧ act ≠ .drop := by
  cases act with
  | send message => simp [effect, Outbox.receiving_afterOffer]
  | sendText text => simp [effect, Outbox.receiving_afterOffer]
  | close => simp [effect, Outbox.receiving_close]
  | drain count => simp [effect, Outbox.take]
  | drop => simp [effect, Outbox.discard]

/-- As long as anybody receives, what an act takes and leaves is what was there and what the act
adds. -/
theorem taken_append_items_effect
    (receiving : (act.effect outbox).receiving = true) :
    act.taken outbox ++ (act.effect outbox).items = outbox.items ++ act.added outbox := by
  cases act with
  | send message =>
      refine (Outbox.items_afterOffer _ outbox).trans ?_
      rw [Outbox.gained_afterOffer]
      rfl
  | sendText text =>
      refine (Outbox.items_afterOffer _ outbox).trans ?_
      rw [Outbox.gained_afterOffer]
      rfl
  | close =>
      refine (Outbox.items_close outbox).trans ?_
      rw [Outbox.gained_close]
      rfl
  | drain count =>
      have nothing : added (.drain count) outbox = [] := ite_self []
      rw [nothing, List.append_nil]
      exact List.take_append_drop count outbox.items
  | drop => exact absurd rfl ((receiving_effect_iff .drop outbox).mp receiving).2

/-- What an act adds to a queue finds room there. -/
theorem length_append_added_le
    (act : QueueAct)
    (bounded : outbox.items.length ≤ 256) :
    (outbox.items ++ act.added outbox).length ≤ 256 := by
  unfold added
  split
  · next accepts =>
      rw [List.length_append]
      exact Nat.le_trans (Nat.add_le_add_left (Option.length_toList_le) _) accepts.2
  · rwa [List.append_nil]

/-- A queue that nobody takes from is left empty. -/
theorem items_effect_of_idle
    (idle : (act.effect outbox).receiving = false)
    (empty : outbox.receiving = false → outbox.items = []) :
    (act.effect outbox).items = [] := by
  by_cases isDrop : act = .drop
  · rw [isDrop]
    rfl
  · have idleBefore : outbox.receiving = false := by
      apply Bool.eq_false_iff.mpr
      intro receiving
      have still := (receiving_effect_iff act outbox).mpr ⟨receiving, isDrop⟩
      rw [idle] at still
      cases still
    have refuses := Outbox.not_accepts_of_idle idleBefore
    have nothing := empty idleBefore
    cases act with
    | send message | sendText text => simp [effect, Outbox.afterOffer, refuses, nothing]
    | close => exact (Outbox.close_of_not_accepts refuses).1.trans nothing
    | drain count => simp [effect, Outbox.take, nothing]
    | drop => exact absurd rfl isDrop

end QueueAct

namespace QueueRun

variable {connection : ConnectionId} {run : QueueRun}

/-- What was drained and what is queued is what was accepted, as long as anybody receives, and a
queue that nobody takes from is empty. -/
structure InOrder (connection : ConnectionId) (run : QueueRun) : Prop where
  /-- The connection is there. -/
  known : connection < run.relay.connections.length
  exact :
    (run.relay.outbox connection).receiving = true →
    run.drained ++ (run.relay.outbox connection).items = run.accepted
  bounded : (run.relay.outbox connection).items.length ≤ 256
  dropped :
    (run.relay.outbox connection).receiving = false →
    (run.relay.outbox connection).items = []

/-- A text that is sent is accepted just if the queue takes it. -/
theorem sent_sendText
    (run : QueueRun)
    (connection : ConnectionId)
    (text : String) :
    run.sent text (run.relay.sendText connection text) =
      { run with
        relay := (run.relay.sendText connection text).1
        accepted :=
          run.accepted ++
            if (run.relay.outbox connection).Accepts then [.text text] else [] } := by
  by_cases accepts : (run.relay.outbox connection).Accepts
  · rw [Relay.sendText_of_accepts accepts, if_pos accepts]
    rfl
  · obtain ⟨error, refused⟩ := Relay.sendText_of_not_accepts accepts text
    rw [refused, if_neg accepts, List.append_nil]
    rfl

/-- What an act does to a run: it does to the queue what it does to any outbox, and what it adds
and takes is kept. -/
structure Acted (connection : ConnectionId) (run : QueueRun) (act : QueueAct)
    (after : QueueRun) : Prop where
  known : connection < after.relay.connections.length
  outbox :
    after.relay.outbox connection = act.effect (run.relay.outbox connection)
  accepted :
    after.accepted = run.accepted ++ act.added (run.relay.outbox connection)
  drained :
    after.drained = run.drained ++ act.taken (run.relay.outbox connection)

theorem acted_act
    (known : connection < run.relay.connections.length)
    (act : QueueAct) :
    Acted connection run act (run.act connection act) := by
  have knownAfter {after : Relay} (books : Relay.SameBooks run.relay after) :
      connection < after.connections.length :=
    books.connections ▸ known
  have texted (text : String) :
      Acted connection run (.sendText text)
        (run.sent text (run.relay.sendText connection text)) := by
    rw [sent_sendText]
    exact {
      known := knownAfter (Relay.sameBooks_sendText run.relay connection text)
      outbox := Relay.outbox_sendText_same run.relay connection text
      accepted := rfl
      drained := (List.append_nil _).symm
    }
  have replaced (outbox : Outbox) :
      connection < (run.relay.withOutbox connection outbox).connections.length :=
    knownAfter (Relay.sameBooks_withOutbox run.relay connection outbox)
  have replacedBy (outbox : Outbox) :
      (run.relay.withOutbox connection outbox).outbox connection = outbox :=
    Relay.outbox_withOutbox_same (.inl known)
  cases act with
  | send message =>
      have sent := texted message.toText
      exact ⟨sent.known, sent.outbox, sent.accepted, sent.drained⟩
  | sendText text => exact texted text
  | close =>
      refine ⟨replaced _, replacedBy _, ?_, (List.append_nil _).symm⟩
      dsimp only [QueueRun.act]
      split
      · next accepts =>
          exact congrArg (run.accepted ++ ·) (if_pos accepts).symm
      · next refuses =>
          exact (List.append_nil _).symm.trans
            (congrArg (run.accepted ++ ·) (if_neg refuses).symm)
  | drain count =>
      exact ⟨replaced _, replacedBy _,
        (List.append_nil _).symm.trans (congrArg (run.accepted ++ ·) (ite_self []).symm), rfl⟩
  | drop =>
      exact ⟨replaced _, replacedBy _,
        (List.append_nil _).symm.trans (congrArg (run.accepted ++ ·) (ite_self []).symm),
        (List.append_nil _).symm⟩

namespace InOrder

theorem act
    (inOrder : InOrder connection run)
    (act : QueueAct) :
    InOrder connection (run.act connection act) := by
  have acted := acted_act inOrder.known act
  have whole (receiving : (act.effect (run.relay.outbox connection)).receiving = true) :=
    QueueAct.taken_append_items_effect receiving
  have idle (isIdle : (act.effect (run.relay.outbox connection)).receiving = false) :=
    QueueAct.items_effect_of_idle isIdle inOrder.dropped
  exact {
    known := acted.known
    exact := by
      rw [acted.outbox, acted.accepted, acted.drained]
      intro receiving
      -- Nobody who has dropped the receiving end gets it back.
      have before := ((QueueAct.receiving_effect_iff act _).mp receiving).1
      rw [List.append_assoc, whole receiving, ← List.append_assoc, inOrder.exact before]
    bounded := by
      rw [acted.outbox]
      cases after : (act.effect (run.relay.outbox connection)).receiving with
      | false =>
          rw [idle after]
          exact Nat.zero_le _
      | true =>
          refine Nat.le_trans ?_ (QueueAct.length_append_added_le act inOrder.bounded)
          rw [← whole after, List.length_append]
          exact Nat.le_add_left _ _
    dropped := by
      rw [acted.outbox]
      exact idle
  }

theorem perform
    (inOrder : InOrder connection run)
    (acts : List QueueAct) :
    InOrder connection (run.perform connection acts) := by
  induction acts generalizing run with
  | nil => exact inOrder
  | cons act later inductionHypothesis => exact inductionHypothesis (inOrder.act act)

end InOrder

/-! ## Whole runs -/

/-- Somebody receives until the receiving end is dropped. -/
theorem receiving_perform_iff
    (known : connection < run.relay.connections.length)
    (acts : List QueueAct) :
    ((run.perform connection acts).relay.outbox connection).receiving = true ↔
      (run.relay.outbox connection).receiving = true ∧ .drop ∉ acts := by
  induction acts generalizing run with
  | nil => simp [QueueRun.perform]
  | cons act later inductionHypothesis =>
      have acted := acted_act known act
      refine (inductionHypothesis acted.known).trans ?_
      rw [acted.outbox, QueueAct.receiving_effect_iff, List.mem_cons, not_or, and_assoc]
      exact and_congr_right' (and_congr_left' ne_comm)

/-- Nothing is accepted once the receiving end has been dropped. -/
theorem accepted_perform_of_dropped
    (known : connection < run.relay.connections.length)
    (idle : (run.relay.outbox connection).receiving = false)
    (acts : List QueueAct) :
    (run.perform connection acts).accepted = run.accepted := by
  induction acts generalizing run with
  | nil => rfl
  | cons act later inductionHypothesis =>
      have acted := acted_act known act
      have refuses := Outbox.not_accepts_of_idle idle
      have idleAfter : ((run.act connection act).relay.outbox connection).receiving = false := by
        rw [acted.outbox]
        apply Bool.eq_false_iff.mpr
        intro receiving
        have before := ((QueueAct.receiving_effect_iff act _).mp receiving).1
        rw [idle] at before
        cases before
      refine (inductionHypothesis acted.known idleAfter).trans ?_
      rw [acted.accepted, QueueAct.added, if_neg refuses, List.append_nil]

/-- A connection that has just been opened is received from, and nothing has happened to it. -/
theorem inOrder_opened
    (relay : Relay)
    (address : Option SocketAddress) :
    InOrder relay.connections.length (opened relay address) ∧
      (opened relay address).relay.outbox relay.connections.length = .empty := by
  have known : relay.connections.length < (opened relay address).relay.connections.length := by
    simp [opened, Relay.openConnection]
  have empty : (opened relay address).relay.outbox relay.connections.length = .empty := by
    simp [opened, Relay.openConnection, Relay.outbox]
  refine ⟨⟨known, ?_, ?_, ?_⟩, empty⟩
  · rw [empty]
    exact fun _ => rfl
  · rw [empty]
    exact Nat.zero_le _
  · rw [empty]
    exact fun _ => rfl

/--
However a connection that was opened is sent on, closed and drained, what was drained and then what
is queued is just what was accepted, in order, until the receiving end is dropped; never are more
than 256 items queued.  A text, or a message, is accepted just if there is somebody who receives
and fewer are queued; otherwise the sender is told which of the two it lacks, and nothing changes.
A closing is queued if there is room, and leaves the queue as it is otherwise; who drains takes
from the front.  After the receiving end was dropped nothing is queued, and nothing is ever accepted
again.
-/
theorem queue_is_bounded_and_in_order
    (relay : Relay)
    (address : Option SocketAddress)
    (acts : List QueueAct) :
    let connection := relay.connections.length
    let run := (opened relay address).perform connection acts
    let outbox := run.relay.outbox connection
    (outbox.receiving = true ↔ .drop ∉ acts) ∧
      (outbox.receiving = true → run.drained ++ outbox.items = run.accepted) ∧
      outbox.items.length ≤ 256 ∧
      (∀ text, run.relay.Sends connection text (run.relay.sendText connection text)) ∧
      (∀ message,
        run.relay.Sends connection message.toText (run.relay.sendMessage connection message)) ∧
      ((run.relay.closeConnection connection).outbox connection).items =
        (if outbox.receiving = true ∧ outbox.items.length < 256 then
          outbox.items ++ [.close]
        else
          outbox.items) ∧
      (∀ count,
        (run.act connection (.drain count)).drained =
            run.drained ++ outbox.items.take count ∧
          ((run.act connection (.drain count)).relay.outbox connection).items =
            outbox.items.drop count) ∧
      (outbox.receiving = false →
        ∀ more,
          (run.perform connection more).accepted = run.accepted ∧
            ((run.perform connection more).relay.outbox connection).items = []) := by
  intro connection run outbox
  obtain ⟨inOrderFirst, empty⟩ := inOrder_opened relay address
  have inOrder : InOrder connection run := inOrderFirst.perform acts
  have receiving := receiving_perform_iff inOrderFirst.known acts
  rw [empty] at receiving
  refine ⟨receiving.trans (and_iff_right rfl), inOrder.exact, inOrder.bounded,
    fun text => Relay.sends_sendText run.relay connection text,
    fun message => Relay.sends_sendText run.relay connection message.toText, ?_,
    fun count => ?_, ?_⟩
  · rw [Relay.outbox_closeConnection_same, Outbox.items_close, Outbox.gained_close]
    by_cases accepts : outbox.Accepts
    · exact (congrArg (outbox.items ++ ·) (if_pos accepts)).trans (if_pos accepts).symm
    · exact ((congrArg (outbox.items ++ ·) (if_neg accepts)).trans
        (List.append_nil _)).trans (if_neg accepts).symm
  · have acted := acted_act inOrder.known (.drain count)
    exact ⟨acted.drained, congrArg Outbox.items acted.outbox⟩
  · intro idle more
    have still : ¬((run.perform connection more).relay.outbox connection).receiving = true := by
      rw [receiving_perform_iff inOrder.known more]
      exact fun both => Bool.eq_false_iff.mp idle both.1
    exact ⟨accepted_perform_of_dropped inOrder.known idle more,
      (inOrder.perform more).dropped (Bool.eq_false_iff.mpr still)⟩

end QueueRun

end SignalRelay
