import SignalRelay.Proofs.Schedule

namespace SignalRelay

/-!
# Closing again

A connection that was closed may be closed once more.  Two runs are compared that differ in that
one closing only.  The second queue then holds one closing more behind the first one, or was asked
to close ahead of the queue, if that was full.

As long as the two are alike up to their first closing, their writers go side by side.  Only a
closing that finds the second queue full, and the first not, sets them apart: the second writer
closes while the first has texts to write.
-/

namespace Outbox

variable {first second : Outbox}

/-- Two outboxes are alike up to the first closing, and the second one is no less full. -/
inductive Alike (first second : Outbox) : Prop where
  | requested
      (inFirst : first.closeRequested = true)
      (inSecond : second.closeRequested = true) :
      Alike first second
  | queued
      {front firstRest secondRest : List Outgoing}
      (firstQuiet : first.closeRequested = false)
      (secondQuiet : second.closeRequested = false)
      (inFirst : first.items = front ++ .close :: firstRest)
      (inSecond : second.items = front ++ .close :: secondRest)
      (fuller : first.items.length ≤ second.items.length) :
      Alike first second

/-- Closing ahead of the queue was asked for in the second of two outboxes, and in the first one a
closing is queued. -/
structure Overtaken (first second : Outbox) : Prop where
  quiet : first.closeRequested = false
  queued : .close ∈ first.items
  requested : second.closeRequested = true

/-- An outbox that holds a closing is like itself. -/
theorem alike_self
    {outbox : Outbox}
    (holds : outbox.HoldsClosing) :
    Alike outbox outbox := by
  cases request : outbox.closeRequested with
  | true => exact .requested request request
  | false =>
      rcases holds with member | requested
      · obtain ⟨front, rest, shape⟩ := List.append_of_mem member
        exact .queued request request shape shape (Nat.le_refl _)
      · rw [request] at requested
        cases requested

/-! ### Sending -/

theorem closeRequested_afterOffer
    (item : Outgoing)
    (outbox : Outbox) :
    (outbox.afterOffer item).closeRequested = outbox.closeRequested := by
  unfold afterOffer
  split <;> rfl

theorem items_afterOffer_of_close
    {outbox : Outbox}
    {front rest : List Outgoing}
    (shape : outbox.items = front ++ .close :: rest)
    (item : Outgoing) :
    (outbox.afterOffer item).items =
      front ++ .close :: (rest ++ gained outbox (outbox.afterOffer item)) := by
  rw [items_afterOffer, shape, List.append_assoc, List.cons_append]

/-- An outbox that is no less full than another stays so when an item is offered to both. -/
theorem length_afterOffer_le
    (fuller : first.items.length ≤ second.items.length)
    (receiving : second.receiving = true)
    (item : Outgoing) :
    (first.afterOffer item).items.length ≤ (second.afterOffer item).items.length := by
  rw [items_afterOffer, items_afterOffer, gained_afterOffer, gained_afterOffer,
    List.length_append, List.length_append]
  by_cases secondAccepts : second.Accepts
  · rw [if_pos secondAccepts]
    apply Nat.add_le_add fuller
    split
    · exact Nat.le_refl _
    · exact Nat.zero_le _
  · rw [if_neg secondAccepts]
    split
    · next firstAccepts =>
        have full : capacity ≤ second.items.length :=
          Nat.le_of_not_lt fun room => secondAccepts ⟨receiving, room⟩
        exact Nat.le_trans firstAccepts.2 full
    · exact fuller

/-- What is sent leaves two outboxes alike. -/
theorem Alike.afterOffer
    (alike : Alike first second)
    (receiving : second.receiving = true)
    (item : Outgoing) :
    Alike (first.afterOffer item) (second.afterOffer item) := by
  cases alike with
  | requested inFirst inSecond =>
      exact .requested ((closeRequested_afterOffer item first).trans inFirst)
        ((closeRequested_afterOffer item second).trans inSecond)
  | queued firstQuiet secondQuiet inFirst inSecond fuller =>
      exact .queued ((closeRequested_afterOffer item first).trans firstQuiet)
        ((closeRequested_afterOffer item second).trans secondQuiet)
        (items_afterOffer_of_close inFirst item) (items_afterOffer_of_close inSecond item)
        (length_afterOffer_le fuller receiving item)

theorem Overtaken.afterOffer
    (overtaken : Overtaken first second)
    (item : Outgoing) :
    Overtaken (first.afterOffer item) (second.afterOffer item) where
  quiet := (closeRequested_afterOffer item first).trans overtaken.quiet
  queued := by
    rw [items_afterOffer]
    exact List.mem_append_left _ overtaken.queued
  requested := (closeRequested_afterOffer item second).trans overtaken.requested

/-! ### Closing -/

/-- A closing is queued if there is room, and otherwise asked for ahead of the queue. -/
theorem close_of_receiving
    {outbox : Outbox}
    (receiving : outbox.receiving = true) :
    (outbox.Accepts ∧ outbox.close = outbox.afterOffer .close) ∨
      (¬outbox.Accepts ∧ outbox.close = { outbox with closeRequested := true }) := by
  by_cases accepts : outbox.Accepts
  · refine .inl ⟨accepts, ?_⟩
    rw [close_of_accepts accepts, Outbox.afterOffer, if_pos accepts]
  · refine .inr ⟨accepts, close_of_full receiving ?_⟩
    exact Nat.le_of_not_lt fun room => accepts ⟨receiving, room⟩

/-- A closing that was asked for stays asked for when there is one more. -/
theorem closeRequested_close
    {outbox : Outbox}
    (receiving : outbox.receiving = true)
    (requested : outbox.closeRequested = true) :
    outbox.close.closeRequested = true := by
  rcases close_of_receiving receiving with ⟨-, closed⟩ | ⟨-, closed⟩
  · rw [closed, closeRequested_afterOffer, requested]
  · rw [closed]

/-- One closing more in the second outbox only leaves the two alike, unless its queue is full. -/
theorem Alike.closeAgain
    (alike : Alike first second)
    (receiving : second.receiving = true) :
    Alike first second.close ∨ ¬second.Accepts ∧ Overtaken first second.close := by
  cases alike with
  | requested inFirst inSecond =>
      exact .inl (.requested inFirst (closeRequested_close receiving inSecond))
  | queued firstQuiet secondQuiet inFirst inSecond fuller =>
      rcases close_of_receiving receiving with ⟨-, closed⟩ | ⟨refuses, closed⟩
      · have quiet := (closeRequested_afterOffer .close second).trans secondQuiet
        have inClosed := items_afterOffer_of_close inSecond .close
        left
        rw [closed]
        refine .queued firstQuiet quiet inFirst inClosed ?_
        rw [items_afterOffer, List.length_append]
        exact Nat.le_add_right_of_le fuller
      · refine .inr ⟨refuses, firstQuiet, ?_, ?_⟩
        · rw [inFirst]
          exact List.mem_append_right _ List.mem_cons_self
        · rw [closed]

/-- Where both outboxes are closed they stay alike, unless only the second queue is full. -/
theorem Alike.close
    (alike : Alike first second)
    (firstReceives : first.receiving = true)
    (secondReceives : second.receiving = true) :
    Alike first.close second.close ∨
      ¬second.Accepts ∧ Overtaken first.close second.close := by
  cases alike with
  | requested inFirst inSecond =>
      exact .inl (.requested (closeRequested_close firstReceives inFirst)
        (closeRequested_close secondReceives inSecond))
  | queued firstQuiet secondQuiet inFirst inSecond fuller =>
      rcases close_of_receiving firstReceives with
        ⟨accepts, firstClosed⟩ | ⟨refuses, firstClosed⟩
      · rcases close_of_receiving secondReceives with
          ⟨-, secondClosed⟩ | ⟨secondRefuses, secondClosed⟩
        · left
          rw [firstClosed, secondClosed]
          exact (Alike.queued firstQuiet secondQuiet inFirst inSecond fuller).afterOffer
            secondReceives .close
        · refine .inr ⟨secondRefuses, ?_, ?_, ?_⟩
          · rw [firstClosed, closeRequested_afterOffer, firstQuiet]
          · rw [firstClosed, items_afterOffer_of_close inFirst]
            exact List.mem_append_right _ List.mem_cons_self
          · rw [secondClosed]
      -- The second queue is no less full, so both closings are asked for ahead of their queues.
      · have secondRefuses : ¬second.Accepts := fun accepts =>
          refuses ⟨firstReceives, Nat.lt_of_le_of_lt fuller accepts.2⟩
        rcases close_of_receiving secondReceives with ⟨accepts, -⟩ | ⟨-, secondClosed⟩
        · exact (secondRefuses accepts).elim
        · left
          rw [firstClosed, secondClosed]
          exact .requested rfl rfl

/-- Where both outboxes are closed, the closing may overtake the first queue as well. -/
theorem Overtaken.close
    (overtaken : Overtaken first second)
    (firstReceives : first.receiving = true)
    (secondReceives : second.receiving = true) :
    Alike first.close second.close ∨ Overtaken first.close second.close := by
  have requested := closeRequested_close secondReceives overtaken.requested
  rcases close_of_receiving firstReceives with ⟨-, closed⟩ | ⟨-, closed⟩
  · right
    rw [closed]
    refine ⟨?_, (overtaken.afterOffer .close).queued, requested⟩
    exact (closeRequested_afterOffer .close first).trans overtaken.quiet
  · left
    rw [closed]
    exact .requested rfl requested

/-! ### What others do -/

/-- The same is done to two outboxes by others than their writers. -/
inductive SameDone (first second : Outbox) : ChannelAct → Outbox → Outbox → Prop where
  | nothing
      {act : ChannelAct} :
      SameDone first second act first second
  | offered
      {text : String} :
      SameDone first second (.send text) (first.afterOffer (.text text))
        (second.afterOffer (.text text))
  | closed :
      SameDone first second .close first.close second.close

theorem Alike.sameDone
    {act : ChannelAct}
    {firstAfter secondAfter : Outbox}
    (alike : Alike first second)
    (same : SameDone first second act firstAfter secondAfter)
    (firstReceives : first.receiving = true)
    (secondReceives : second.receiving = true) :
    Alike firstAfter secondAfter ∨
      act = .close ∧ capacity ≤ second.items.length ∧ Overtaken firstAfter secondAfter := by
  cases same with
  | nothing => exact .inl alike
  | offered => exact .inl (alike.afterOffer secondReceives _)
  | closed =>
      refine (alike.close firstReceives secondReceives).imp_right ?_
      rintro ⟨refuses, overtaken⟩
      exact ⟨rfl, Nat.le_of_not_lt fun room => refuses ⟨secondReceives, room⟩, overtaken⟩

theorem Overtaken.sameDone
    {act : ChannelAct}
    {firstAfter secondAfter : Outbox}
    (overtaken : Overtaken first second)
    (same : SameDone first second act firstAfter secondAfter)
    (firstReceives : first.receiving = true)
    (secondReceives : second.receiving = true) :
    Alike firstAfter secondAfter ∨ Overtaken firstAfter secondAfter := by
  cases same with
  | nothing => exact .inr overtaken
  | offered => exact .inr (overtaken.afterOffer _)
  | closed => exact overtaken.close firstReceives secondReceives

theorem SameDone.receiving
    {act : ChannelAct}
    {firstAfter secondAfter : Outbox}
    (same : SameDone first second act firstAfter secondAfter) :
    firstAfter.receiving = first.receiving ∧ secondAfter.receiving = second.receiving := by
  cases same with
  | nothing => exact ⟨rfl, rfl⟩
  | offered => exact ⟨receiving_afterOffer .., receiving_afterOffer ..⟩
  | closed => exact ⟨receiving_close _, receiving_close _⟩

/-! ### Taking -/

theorem next?_of_requested
    {outbox : Outbox}
    (requested : outbox.closeRequested = true) :
    outbox.next? = some (.close, { outbox with closeRequested := false }) := by
  rw [next?, if_pos requested]

theorem next?_of_quiet
    {outbox : Outbox}
    {item : Outgoing}
    {rest : List Outgoing}
    (quiet : outbox.closeRequested = false)
    (held : outbox.items = item :: rest) :
    outbox.next? = some (item, { outbox with items := rest }) := by
  rw [next?, quiet, held]
  rfl

/-- Writers take the same from outboxes that are alike, and leave them so until they close. -/
theorem Alike.next?
    (alike : Alike first second) :
    ∃ item firstRest secondRest,
      first.next? = some (item, firstRest) ∧
        second.next? = some (item, secondRest) ∧
        (item = .close ∨ Alike firstRest secondRest) := by
  cases alike with
  | requested inFirst inSecond =>
      exact ⟨.close, _, _, next?_of_requested inFirst, next?_of_requested inSecond, .inl rfl⟩
  | @queued front firstRest secondRest firstQuiet secondQuiet inFirst inSecond fuller =>
      cases front with
      | nil =>
          exact ⟨.close, _, _, next?_of_quiet firstQuiet inFirst,
            next?_of_quiet secondQuiet inSecond, .inl rfl⟩
      | cons item front =>
          refine ⟨item, _, _, next?_of_quiet firstQuiet inFirst,
            next?_of_quiet secondQuiet inSecond,
            .inr (.queued firstQuiet secondQuiet rfl rfl ?_)⟩
          rw [inFirst, inSecond] at fuller
          exact Nat.le_of_succ_le_succ fuller

end Outbox

namespace Channel

variable {first second channel : Channel} {text : String} {item : Outgoing}

/-! ## Two runs side by side -/

/-- Two writers are at the same place, and have neither stopped nor come to a closing. -/
structure Live (first second : Channel) : Prop where
  sameHeld : second.held = first.held
  sameWriter : second.writer = first.writer
  sameWritten : second.written = first.written
  running : first.writer ≠ .stopped
  notClosing : first.writer ≠ .writing .close
  firstReceives : first.outbox.receiving = true
  secondReceives : second.outbox.receiving = true

/-- Two runs in which the same has been written, and the same will be if nothing is done. -/
inductive Level (first second : Channel) : Prop where
  /-- The writers have come to a closing, or have stopped. -/
  | past
      (sameWriter : second.writer = first.writer)
      (sameWritten : second.written = first.written)
      (gone : first.writer = .writing .close ∨ first.writer = .stopped) :
      Level first second
  | nearing
      (live : Live first second)
      (alike : first.outbox.Alike second.outbox) :
      Level first second

/-- The second writer will close next, and the first one will not unless that is next. -/
structure Ahead (first second : Channel) : Prop where
  live : Live first second
  overtaken : first.outbox.Overtaken second.outbox

/-- The second writer closes while the first one writes a text. -/
structure Parting (text : String) (written : List SocketMessage) (first second : Channel) :
    Prop where
  firstWriter : first.writer = .writing (.text text)
  secondWriter : second.writer = .writing .close
  firstWritten : first.written = written
  secondWritten : second.written = written

namespace Live

/-- What is done beside the writers leaves them at the same place. -/
theorem aside
    (live : Live first second)
    {act : ChannelAct}
    (notTake : act ≠ .take)
    (notWrite : ∀ result, act ≠ .write result)
    (same :
      first.outbox.SameDone second.outbox act (first.act act).outbox
        (second.act act).outbox) :
    Live (first.act act) (second.act act) := by
  obtain ⟨firstWriter, firstWritten⟩ := first.writer_act act notTake notWrite
  obtain ⟨secondWriter, secondWritten⟩ := second.writer_act act notTake notWrite
  exact {
    sameHeld := by rw [held_act, held_act, live.sameHeld]
    sameWriter := by rw [firstWriter, secondWriter, live.sameWriter]
    sameWritten := by rw [firstWritten, secondWritten, live.sameWritten]
    running := firstWriter ▸ live.running
    notClosing := firstWriter ▸ live.notClosing
    firstReceives := same.receiving.1.trans live.firstReceives
    secondReceives := same.receiving.2.trans live.secondReceives
  }

/-- Both writers take a closing. -/
theorem takeClosing
    {firstRest secondRest : Outbox}
    (live : Live first second)
    (waiting : first.writer = .waiting)
    (firstTakes : first.outbox.next? = some (.close, firstRest))
    (secondTakes : second.outbox.next? = some (.close, secondRest)) :
    Level (first.act .take) (second.act .take) := by
  have secondWaiting := live.sameWriter.trans waiting
  refine .past ?_ ?_ (.inl ?_)
  · rw [act_take_of_waiting waiting firstTakes, act_take_of_waiting secondWaiting secondTakes]
    rfl
  · rw [written_act_take waiting firstTakes, written_act_take secondWaiting secondTakes,
      live.sameWritten]
  · rw [act_take_of_waiting waiting firstTakes]
    rfl

/-- Both writers take the same item, and what they leave is alike. -/
theorem takeItem
    {firstRest secondRest : Outbox}
    (live : Live first second)
    (waiting : first.writer = .waiting)
    (firstTakes : first.outbox.next? = some (item, firstRest))
    (secondTakes : second.outbox.next? = some (item, secondRest))
    (alike : firstRest.Alike secondRest) :
    Level (first.act .take) (second.act .take) := by
  cases item with
  | close => exact live.takeClosing waiting firstTakes secondTakes
  | text text =>
      have secondWaiting := live.sameWriter.trans waiting
      have sameWritten : (second.act .take).written = (first.act .take).written := by
        rw [written_act_take waiting firstTakes, written_act_take secondWaiting secondTakes,
          live.sameWritten]
      rw [act_take_of_waiting waiting firstTakes,
        act_take_of_waiting secondWaiting secondTakes] at sameWritten ⊢
      exact .nearing ⟨live.sameHeld, rfl, sameWritten, nofun, nofun,
        (Outbox.receiving_of_next? firstTakes).trans live.firstReceives,
        (Outbox.receiving_of_next? secondTakes).trans live.secondReceives⟩ alike

/-- Both writers write the same text, and go on unless that fails. -/
theorem write
    (live : Live first second)
    (result : WriteResult) :
    (Live (first.act (.write result)) (second.act (.write result)) ∧
        (first.act (.write result)).outbox = first.outbox ∧
        (second.act (.write result)).outbox = second.outbox) ∨
      Level (first.act (.write result)) (second.act (.write result)) := by
  cases writer : first.writer with
  | stopped => exact (live.running writer).elim
  | waiting =>
      have unwritten {channel : Channel} (waiting : channel.writer = .waiting) :
          channel.act (.write result) = channel :=
        act_write_of_not_writing (fun item writing => by rw [waiting] at writing; cases writing)
          result
      rw [unwritten writer, unwritten (live.sameWriter.trans writer)]
      exact .inl ⟨live, rfl, rfl⟩
  | writing item =>
      cases item with
      | close => exact (live.notClosing writer).elim
      | text text =>
          have secondWriter := live.sameWriter.trans writer
          have sameWritten :
              (second.act (.write result)).written = (first.act (.write result)).written := by
            rw [written_act_write secondWriter, written_act_write writer, live.sameWritten]
          rw [act_write_of_writing writer, act_write_of_writing secondWriter] at sameWritten ⊢
          cases result with
          | failed => exact .inr (.past rfl sameWritten (.inr rfl))
          | done | blocked =>
              exact .inl ⟨⟨live.sameHeld, rfl, sameWritten, nofun, nofun, live.firstReceives,
                live.secondReceives⟩, rfl, rfl⟩

/-- What is done other than to take is the same for both, or makes both writers stop. -/
theorem act
    (live : Live first second)
    {act : ChannelAct}
    (notTake : act ≠ .take) :
    Level (first.act act) (second.act act) ∨
      Live (first.act act) (second.act act) ∧
        first.outbox.SameDone second.outbox act (first.act act).outbox
          (second.act act).outbox := by
  cases act with
  | take => exact (notTake rfl).elim
  | send text =>
      have same :
          first.outbox.SameDone second.outbox (.send text) (first.act (.send text)).outbox
            (second.act (.send text)).outbox := by
        rw [outbox_act_send, outbox_act_send, live.sameHeld]
        split
        · exact .offered
        · exact .nothing
      exact .inr ⟨live.aside nofun nofun same, same⟩
  | close =>
      have same :
          first.outbox.SameDone second.outbox .close (first.act .close).outbox
            (second.act .close).outbox := by
        rw [outbox_act_close, outbox_act_close, live.sameHeld]
        split
        · exact .closed
        · exact .nothing
      exact .inr ⟨live.aside nofun nofun same, same⟩
  | release =>
      have same :
          first.outbox.SameDone second.outbox .release (first.act .release).outbox
            (second.act .release).outbox := by
        rw [outbox_act_release, outbox_act_release]
        exact .nothing
      exact .inr ⟨live.aside nofun nofun same, same⟩
  | write result =>
      rcases live.write result with ⟨stillLive, firstSame, secondSame⟩ | stopped
      · rw [firstSame, secondSame]
        exact .inr ⟨stillLive, .nothing⟩
      · exact .inl stopped
  | leave =>
      rw [act_leave_of_not_stopped live.running,
        act_leave_of_not_stopped (live.sameWriter ▸ live.running)]
      exact .inr ⟨live, .nothing⟩

end Live

/-- Writers that have come to a closing, or have stopped, do the same from then on. -/
theorem past_act
    (sameWriter : second.writer = first.writer)
    (sameWritten : second.written = first.written)
    (gone : first.writer = .writing .close ∨ first.writer = .stopped)
    (act : ChannelAct) :
    Level (first.act act) (second.act act) := by
  have aside (notTake : act ≠ .take) (notWrite : ∀ result, act ≠ .write result) :
      Level (first.act act) (second.act act) := by
    obtain ⟨firstWriter, firstWritten⟩ := first.writer_act act notTake notWrite
    obtain ⟨secondWriter, secondWritten⟩ := second.writer_act act notTake notWrite
    refine .past ?_ ?_ (firstWriter ▸ gone)
    · rw [firstWriter, secondWriter, sameWriter]
    · rw [firstWritten, secondWritten, sameWritten]
  cases act with
  | send | close | release | leave => exact aside nofun nofun
  | take =>
      have busy : first.writer ≠ .waiting := by
        rcases gone with closing | stopped
        · simp [closing]
        · simp [stopped]
      rw [act_take_of_not_waiting busy, act_take_of_not_waiting (sameWriter ▸ busy)]
      exact .past sameWriter sameWritten gone
  | write result =>
      rcases gone with closing | stopped
      · have secondClosing := sameWriter.trans closing
        refine .past ?_ ?_ ?_
        · rw [act_write_of_writing closing, act_write_of_writing secondClosing]
          rfl
        · rw [written_act_write secondClosing, written_act_write closing, sameWritten]
        · rw [act_write_of_writing closing]
          cases result with
          | blocked => exact .inl rfl
          | done | failed => exact .inr rfl
      · have idle : ∀ item, first.writer ≠ .writing item := by simp [stopped]
        rw [act_write_of_not_writing idle, act_write_of_not_writing (sameWriter ▸ idle)]
        exact .past sameWriter sameWritten (.inr stopped)

theorem Level.sameWritten
    (level : Level first second) :
    second.written = first.written := by
  cases level with
  | past _ sameWritten => exact sameWritten
  | nearing live => exact live.sameWritten

/-- Where the second writer is to close next and the first one is not, runs are not level. -/
theorem Level.not_requested
    {rest : Outbox}
    (level : Level first second)
    (waiting : first.writer = .waiting)
    (takes : first.outbox.next? = some (.text text, rest)) :
    second.outbox.closeRequested = false := by
  cases level with
  | past _ _ gone =>
      simp [waiting] at gone
  | nearing live alike =>
      cases alike with
      | requested inFirst =>
          rw [Outbox.next?_of_requested inFirst] at takes
          cases takes
      | queued _ secondQuiet => exact secondQuiet

/-- Runs that are level stay so, but for a closing that finds only the second queue full. -/
theorem Level.act
    (level : Level first second)
    (act : ChannelAct) :
    Level (first.act act) (second.act act) ∨
      act = .close ∧
        Outbox.capacity ≤ second.outbox.items.length ∧
        Ahead (first.act act) (second.act act) := by
  cases level with
  | past sameWriter sameWritten gone => exact .inl (past_act sameWriter sameWritten gone act)
  | nearing live alike =>
      by_cases isTake : act = .take
      · subst isTake
        left
        by_cases waiting : first.writer = .waiting
        · obtain ⟨item, firstRest, secondRest, firstTakes, secondTakes, after⟩ := alike.next?
          rcases after with rfl | stillAlike
          · exact live.takeClosing waiting firstTakes secondTakes
          · exact live.takeItem waiting firstTakes secondTakes stillAlike
        · rw [act_take_of_not_waiting waiting,
            act_take_of_not_waiting (live.sameWriter ▸ waiting)]
          exact .nearing live alike
      · rcases live.act isTake with stopped | ⟨stillLive, same⟩
        · exact .inl stopped
        · rcases alike.sameDone same live.firstReceives live.secondReceives with
            stillAlike | ⟨isClose, full, overtaken⟩
          · exact .inl (.nearing stillLive stillAlike)
          · exact .inr ⟨isClose, full, stillLive, overtaken⟩

/-- A second writer that is to close next closes where the first one takes a text. -/
theorem Ahead.parting
    {rest : Outbox}
    (ahead : Ahead first second)
    (waiting : first.writer = .waiting)
    (takes : first.outbox.next? = some (.text text, rest)) :
    Parting text first.written (first.act .take) (second.act .take) := by
  obtain ⟨live, overtaken⟩ := ahead
  have secondWaiting := live.sameWriter.trans waiting
  have secondTakes := Outbox.next?_of_requested overtaken.requested
  refine ⟨?_, ?_, ?_, ?_⟩
  · rw [act_take_of_waiting waiting takes]
    rfl
  · rw [act_take_of_waiting secondWaiting secondTakes]
    rfl
  · exact written_act_take waiting takes
  · exact (written_act_take secondWaiting secondTakes).trans live.sameWritten

/-- A second writer that is to close next does so, while the first one takes what is next; else
the two stay where they are, or the first one is to close next as well. -/
theorem Ahead.act
    (ahead : Ahead first second)
    (act : ChannelAct) :
    Level (first.act act) (second.act act) ∨
      Ahead (first.act act) (second.act act) ∨
      act = .take ∧
        first.writer = .waiting ∧
        ∃ text rest, first.outbox.next? = some (.text text, rest) := by
  obtain ⟨live, overtaken⟩ := ahead
  by_cases isTake : act = .take
  · subst isTake
    by_cases waiting : first.writer = .waiting
    · have secondTakes := Outbox.next?_of_requested overtaken.requested
      obtain ⟨item, rest, firstTakes⟩ :=
        Outbox.next?_of_holdsClosing (.inl overtaken.queued)
      cases item with
      | close => exact .inl (live.takeClosing waiting firstTakes secondTakes)
      | text text => exact .inr (.inr ⟨rfl, waiting, text, rest, firstTakes⟩)
    · rw [act_take_of_not_waiting waiting, act_take_of_not_waiting (live.sameWriter ▸ waiting)]
      exact .inr (.inl ⟨live, overtaken⟩)
  · rcases live.act isTake with stopped | ⟨stillLive, same⟩
    · exact .inl stopped
    · rcases overtaken.sameDone same live.firstReceives live.secondReceives with
        alike | stillOvertaken
      · exact .inl (.nearing stillLive alike)
      · exact .inr (.inl ⟨stillLive, stillOvertaken⟩)

/-- Where writers part, either nothing more is written, or the text by the first one and the
closing by the second. -/
theorem Parting.perform
    {written : List SocketMessage}
    (parting : Parting text written first second)
    (acts : List ChannelAct) :
    ((first.perform acts).written = written ∧ (second.perform acts).written = written) ∨
      written ++ [.text text] <+: (first.perform acts).written ∧
        (second.perform acts).written = written ++ [.close (some .normal)] := by
  induction acts generalizing first second with
  | nil => exact .inl ⟨parting.firstWritten, parting.secondWritten⟩
  | cons act later inductionHypothesis =>
      obtain ⟨firstWriter, secondWriter, firstWritten, secondWritten⟩ := parting
      have aside (notTake : act ≠ .take) (notWrite : ∀ result, act ≠ .write result) :
          Parting text written (first.act act) (second.act act) := by
        obtain ⟨firstSame, firstKept⟩ := first.writer_act act notTake notWrite
        obtain ⟨secondSame, secondKept⟩ := second.writer_act act notTake notWrite
        exact ⟨firstSame.trans firstWriter, secondSame.trans secondWriter,
          firstKept.trans firstWritten, secondKept.trans secondWritten⟩
      rw [perform_cons, perform_cons]
      cases act with
      | send | close | release | leave => exact inductionHypothesis (aside nofun nofun)
      | take =>
          apply inductionHypothesis
          rw [act_take_of_not_waiting (by simp [firstWriter]),
            act_take_of_not_waiting (by simp [secondWriter])]
          exact ⟨firstWriter, secondWriter, firstWritten, secondWritten⟩
      | write result =>
          have firstNext : (first.act (.write result)).writer = .after (.text text) result := by
            rw [act_write_of_writing firstWriter]
            rfl
          have secondNext : (second.act (.write result)).writer = .after .close result := by
            rw [act_write_of_writing secondWriter]
            rfl
          have firstWrites := written_act_write firstWriter result
          have secondWrites := written_act_write secondWriter result
          rw [firstWritten] at firstWrites
          rw [secondWritten] at secondWrites
          cases result with
          | blocked =>
              exact inductionHypothesis ⟨firstNext, secondNext,
                firstWrites.trans (List.append_nil _), secondWrites.trans (List.append_nil _)⟩
          | failed =>
              left
              rw [written_perform_of_stopped firstNext, written_perform_of_stopped secondNext]
              exact ⟨firstWrites.trans (List.append_nil _),
                secondWrites.trans (List.append_nil _)⟩
          | done =>
              right
              rw [written_perform_of_stopped secondNext]
              refine ⟨?_, secondWrites⟩
              rw [← show (first.act (.write .done)).written = written ++ [.text text] from
                firstWrites]
              exact written_perform _ later

/-- Writers that part write something different, if anything. -/
theorem Parting.ne
    {written : List SocketMessage}
    (parting : Parting text written first second)
    {acts : List ChannelAct}
    (grown : written.length < (first.perform acts).written.length) :
    (second.perform acts).written ≠ (first.perform acts).written := by
  rcases parting.perform acts with ⟨same, -⟩ | ⟨firstWrites, secondWrites⟩
  · rw [same] at grown
    exact (Nat.lt_irrefl _ grown).elim
  · intro same
    rw [← same, secondWrites, List.prefix_append_right_inj] at firstWrites
    cases List.singleton_sublist.mp firstWrites.sublist with
    | tail _ member => cases member

/-! ## Whole schedules -/

/-- Runs that are level stay level if no closing finds the second queue full. -/
theorem Level.perform
    (level : Level first second)
    {acts : List ChannelAct}
    (room :
      ∀ earlier later,
        acts = earlier ++ .close :: later →
        (second.perform earlier).outbox.items.length < Outbox.capacity) :
    Level (first.perform acts) (second.perform acts) := by
  induction acts generalizing first second with
  | nil => exact level
  | cons act later inductionHypothesis =>
      rw [perform_cons, perform_cons]
      rcases level.act act with stillLevel | ⟨rfl, full, -⟩
      · exact inductionHypothesis stillLevel fun earlier rest split =>
          room (act :: earlier) rest (congrArg (act :: ·) split)
      · exact (Nat.not_lt.mpr full (room [] later rfl)).elim

/-- Runs that are level, or where the second writer is to close next, stay so until the writers
part. -/
theorem parting_of_perform
    (together : Level first second ∨ Ahead first second)
    (acts : List ChannelAct) :
    (Level (first.perform acts) (second.perform acts) ∨
        Ahead (first.perform acts) (second.perform acts)) ∨
      ∃ earlier later text rest,
        acts = earlier ++ .take :: later ∧
          Ahead (first.perform earlier) (second.perform earlier) ∧
          (first.perform earlier).writer = .waiting ∧
          (first.perform earlier).outbox.next? = some (.text text, rest) := by
  induction acts generalizing first second with
  | nil => exact .inl together
  | cons act later inductionHypothesis =>
      -- Only where the second writer is ahead and the first one takes a text do they part.
      have next :
          (Level (first.act act) (second.act act) ∨ Ahead (first.act act) (second.act act)) ∨
            act = .take ∧
              Ahead first second ∧
              first.writer = .waiting ∧
              ∃ text rest, first.outbox.next? = some (.text text, rest) := by
        rcases together with level | ahead
        · exact .inl ((level.act act).imp_right fun overtaken => overtaken.2.2)
        · rcases ahead.act act with level | stillAhead | ⟨isTake, waiting, takes⟩
          · exact .inl (.inl level)
          · exact .inl (.inr stillAhead)
          · exact .inr ⟨isTake, ahead, waiting, takes⟩
      rcases next with stillTogether | ⟨rfl, ahead, waiting, text, rest, takes⟩
      · rcases inductionHypothesis stillTogether with
          atEnd | ⟨earlier, rest, text, outbox, rfl, ahead, waiting, takes⟩
        · exact .inl atEnd
        · exact .inr ⟨act :: earlier, rest, text, outbox, rfl, ahead, waiting, takes⟩
      · exact .inr ⟨[], later, text, rest, rfl, ahead, waiting, takes⟩

/-! ## One closing more -/

/-- Once a connection was closed, the closing is on its way until the writer stops. -/
theorem closesWithin_of_wasClosed
    (reachable : Reachable channel)
    (wasClosed : channel.WasClosed) :
    ∃ count, ClosesWithin channel.outbox channel.writer count := by
  obtain ⟨acts, ran⟩ := reachable
  induction ran with
  | nil =>
      obtain ⟨fault?, member⟩ := wasClosed
      cases member
  | @snoc acts act channel after ran stepped inductionHypothesis =>
      by_cases before : channel.WasClosed
      · obtain ⟨count, closes⟩ := inductionHypothesis before
        obtain ⟨fewer, closesAfter, -⟩ := closes.step stepped
        exact ⟨fewer, closesAfter⟩
      · obtain ⟨event, recorded, closing⟩ := history_of_step? stepped
        obtain ⟨fault?, member⟩ := wasClosed
        rw [recorded] at member
        have now := (List.mem_append.mp member).resolve_left fun inBefore =>
          before ⟨fault?, inBefore⟩
        cases List.mem_singleton.mp now
        cases closing rfl
        by_cases stopped : channel.writer = .stopped
        · have same : after.writer = channel.writer := by
            cases moved_of_step? stepped <;> rfl
          exact ⟨0, by rw [same, stopped]; exact .stopped⟩
        · obtain ⟨texts, course⟩ := Course.of_reachable ⟨acts, ran⟩
          obtain ⟨count, closes, -⟩ := closesWithin_of_close course stopped stepped
          exact ⟨count, closes⟩

/-- As long as its writer goes on, the closing of a connection is queued or asked for. -/
theorem holdsClosing_of_wasClosed
    (reachable : Reachable channel)
    (wasClosed : channel.WasClosed)
    (running : channel.writer ≠ .stopped)
    (notClosing : channel.writer ≠ .writing .close) :
    channel.outbox.receiving = true ∧ channel.outbox.HoldsClosing := by
  obtain ⟨count, closes⟩ := closesWithin_of_wasClosed reachable wasClosed
  obtain ⟨texts, course⟩ := Course.of_reachable reachable
  generalize channel.writer = writer at *
  cases closes with
  | waiting holds =>
      cases course with
      | waiting receiving => exact ⟨receiving, holds⟩
  | writing holds =>
      cases course with
      | writing receiving => exact ⟨receiving, holds⟩
  | closing => exact (notClosing rfl).elim
  | stopped => exact (running rfl).elim

/-- To close a connection again makes no difference by itself, unless the queue is full. -/
theorem level_or_ahead_of_wasClosed
    (reachable : Reachable channel)
    (wasClosed : channel.WasClosed) :
    Level channel (channel.act .close) ∨
      Outbox.capacity ≤ channel.outbox.items.length ∧ Ahead channel (channel.act .close) := by
  obtain ⟨sameWriter, sameWritten⟩ := channel.writer_act .close nofun nofun
  by_cases gone : channel.writer = .writing .close ∨ channel.writer = .stopped
  · exact .inl (.past sameWriter sameWritten gone)
  · obtain ⟨notClosing, running⟩ := not_or.mp gone
    obtain ⟨receiving, holds⟩ :=
      holdsClosing_of_wasClosed reachable wasClosed running notClosing
    have sameHeld : (channel.act .close).held = channel.held := by
      rw [held_act]
      exact Bool.and_true _
    have outbox := channel.outbox_act_close
    cases held : channel.held with
    | false =>
        rw [held, if_neg Bool.false_ne_true] at outbox
        refine .inl (.nearing ⟨sameHeld, sameWriter, sameWritten, running, notClosing, receiving,
          outbox ▸ receiving⟩ ?_)
        rw [outbox]
        exact Outbox.alike_self holds
    | true =>
        rw [held, if_pos rfl] at outbox
        have live : Live channel (channel.act .close) :=
          ⟨sameHeld, sameWriter, sameWritten, running, notClosing, receiving,
            by rw [outbox, Outbox.receiving_close, receiving]⟩
        rcases (Outbox.alike_self holds).closeAgain receiving with
          alike | ⟨refuses, overtaken⟩
        · exact .inl (.nearing live (outbox ▸ alike))
        · exact .inr ⟨Nat.le_of_not_lt fun room => refuses ⟨receiving, room⟩, live,
            outbox ▸ overtaken⟩

/-- The first writer takes a text, and writes it in the end, where the second one was asked to
close. -/
structure Overtakes (first second : Channel) (earlier later : List ChannelAct)
    (text : String) : Prop where
  waiting : (first.perform earlier).writer = .waiting
  next : ∃ rest, (first.perform earlier).outbox.next? = some (.text text, rest)
  requested : (second.perform earlier).outbox.closeRequested = true
  goesOut :
    (first.perform earlier).written ++ [.text text] <+:
      (first.perform (earlier ++ .take :: later)).written

/-- Where what is written differs, a closing has overtaken a text, and stands in its place. -/
theorem overtakes_of_ne
    (together : Level first second ∨ Ahead first second)
    {acts : List ChannelAct}
    (differ : (second.perform acts).written ≠ (first.perform acts).written) :
    ∃ earlier later text,
      acts = earlier ++ .take :: later ∧
        Overtakes first second earlier later text ∧
        (second.perform acts).written =
          (first.perform earlier).written ++ [.close (some .normal)] := by
  rcases parting_of_perform together acts with
    (level | ahead) | ⟨earlier, later, text, rest, rfl, ahead, waiting, takes⟩
  · exact (differ level.sameWritten).elim
  · exact (differ ahead.live.sameWritten).elim
  · rw [perform_append_cons, perform_append_cons] at differ
    rcases (ahead.parting waiting takes).perform later with
      ⟨firstSame, secondSame⟩ | ⟨firstWrites, secondWrites⟩
    · exact (differ (secondSame.trans firstSame.symm)).elim
    · refine ⟨earlier, later, text, rfl,
        ⟨waiting, ⟨rest, takes⟩, ahead.overtaken.requested, ?_⟩, ?_⟩
      · rw [perform_append_cons]
        exact firstWrites
      · rw [perform_append_cons]
        exact secondWrites

/-- Where a closing overtakes a text that is written in the end, what is written differs. -/
theorem ne_of_overtakes
    (together : Level first second ∨ Ahead first second)
    {earlier later : List ChannelAct}
    (overtakes : Overtakes first second earlier later text) :
    (second.perform (earlier ++ .take :: later)).written ≠
      (first.perform (earlier ++ .take :: later)).written := by
  obtain ⟨waiting, ⟨rest, takes⟩, requested, goesOut⟩ := overtakes
  have grown := goesOut.length_le
  rw [List.length_append] at grown
  rcases parting_of_perform together earlier with
    (level | ahead) | ⟨sooner, between, other, otherRest, rfl, ahead, wasWaiting, taken⟩
  · rw [level.not_requested waiting takes] at requested
    cases requested
  · rw [perform_append_cons] at grown
    rw [perform_append_cons, perform_append_cons]
    exact (ahead.parting waiting takes).ne grown
  -- The writers have parted before, and the first one has gone on since.
  · have since := ((first.perform sooner).written_perform (.take :: between)).length_le
    rw [← perform_append] at since
    have split :
        sooner ++ .take :: between ++ .take :: later =
          sooner ++ .take :: (between ++ .take :: later) :=
      List.append_assoc ..
    rw [split] at grown ⊢
    rw [perform_append_cons second sooner, perform_append_cons first sooner]
    refine (ahead.parting wasWaiting taken).ne ?_
    rw [← perform_append_cons first sooner]
    exact Nat.lt_of_le_of_lt since grown

/--
A connection that was closed is closed once more, and all else is done as before.  What is written
is then another just if, at some place, the second writer takes a closing that was asked for ahead
of the queue, where the first one takes a text that it writes in the end.  In that case the second
one has written the closing in place of that text and of all that comes later.  It never comes to
that if that closing, and each one after it, finds room in the queue.
-/
theorem written_closed_again_iff
    (before more : List ChannelAct)
    (wasClosed : (start.perform before).WasClosed) :
    let once := start.perform before
    let again := start.perform (before ++ [.close])
    let first := start.perform (before ++ more)
    let second := start.perform (before ++ .close :: more)
    (second.written ≠ first.written ↔
        ∃ earlier later text,
          more = earlier ++ .take :: later ∧ Overtakes once again earlier later text) ∧
      (second.written ≠ first.written →
        ∃ written text,
          written ++ [.text text] <+: first.written ∧
            second.written = written ++ [.close (some ⟨1000, ""⟩)]) ∧
      ((∀ earlier later,
          .close :: more = earlier ++ .close :: later →
          (start.perform (before ++ earlier)).outbox.items.length < 256) →
        second.written = first.written) := by
  intro once again first second
  have firstRun : first = once.perform more := perform_append start before more
  have againRun : again = once.act .close := perform_append start before [.close]
  have secondRun : second = again.perform more := by
    rw [againRun]
    exact perform_append_cons start before .close more
  have begun := level_or_ahead_of_wasClosed (reachable_perform before) wasClosed
  rw [← show again = once.act .close from againRun] at begun
  have together : Level once again ∨ Ahead once again := begun.imp_right And.right
  rw [firstRun, secondRun]
  refine ⟨⟨?_, ?_⟩, ?_, ?_⟩
  · intro differ
    obtain ⟨earlier, later, text, split, overtakes, -⟩ := overtakes_of_ne together differ
    exact ⟨earlier, later, text, split, overtakes⟩
  · rintro ⟨earlier, later, text, rfl, overtakes⟩
    exact ne_of_overtakes together overtakes
  · intro differ
    obtain ⟨earlier, later, text, split, overtakes, closes⟩ := overtakes_of_ne together differ
    refine ⟨_, text, ?_, closes⟩
    rw [split]
    exact overtakes.goesOut
  · intro room
    have level : Level once again := by
      have free := room [] more rfl
      rw [List.append_nil] at free
      exact begun.resolve_right fun full => Nat.not_lt.mpr full.1 free
    refine (level.perform fun earlier later split => ?_).sameWritten
    rw [againRun, ← perform_cons, ← perform_append]
    exact room (.close :: earlier) later (congrArg (.close :: ·) split)

/-- As many texts are sent as leave room for one closing, and the connection is closed. -/
def crowded : List ChannelAct :=
  List.replicate 255 (.send "a") ++ [.close]

/-- When a connection is closed again whose queue its closing has filled, the writer takes that
closing in place of the first of the texts, and stops. -/
theorem written_closed_again_iff_of_crowded :
    (start.perform crowded).WasClosed ∧
      (start.perform (crowded ++ [.take, .write .done])).written = [.text "a"] ∧
      (start.perform (crowded ++ .close :: [.take, .write .done])).written =
        [.close (some ⟨1000, ""⟩)] ∧
      ∃ earlier later text,
        [.take, .write .done] = earlier ++ .take :: later ∧
          Overtakes (start.perform crowded) (start.perform (crowded ++ [.close]))
            earlier later text := by
  have wasClosed : (start.perform crowded).WasClosed := ⟨none, by decide +kernel⟩
  have once : (start.perform (crowded ++ [.take, .write .done])).written = [.text "a"] := by
    decide +kernel
  have again :
      (start.perform (crowded ++ .close :: [.take, .write .done])).written =
        [.close (some ⟨1000, ""⟩)] := by
    decide +kernel
  refine ⟨wasClosed, once, again, ?_⟩
  apply (written_closed_again_iff crowded [.take, .write .done] wasClosed).1.mp
  rw [once, again]
  decide

end Channel

end SignalRelay
