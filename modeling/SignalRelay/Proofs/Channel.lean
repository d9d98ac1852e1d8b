import SignalRelay.Hub.Link
import SignalRelay.Proofs.Queues

namespace SignalRelay

/-!
# The channel of a connection

Many tasks put items into the outbox of a connection, and one writer takes them out and
writes them.  A channel is an outbox with its writer, and with what has happened to them.  The
writer takes something in one act and writes it in others, so that more may be sent, and the
connection closed, while it writes.

`Channel.Moved` says everything that an act can do to a channel.
-/

/-- The frame that an item is written as. -/
def Outgoing.frame : Outgoing → SocketMessage
  | .text content => .text content
  | .close => .close (some .normal)

/-- What can be done to a channel. -/
inductive ChannelAct where
  /-- Somebody sends a text. -/
  | send : String → ChannelAct
  /-- Somebody closes the connection. -/
  | close : ChannelAct
  /-- The last of those who may send is gone. -/
  | release : ChannelAct
  /-- The writer, which waits, takes what comes next, or learns that nothing will come. -/
  | take : ChannelAct
  /-- An attempt of the writer to write what it has taken ends. -/
  | write : WriteResult → ChannelAct
  /-- The writer, which has stopped, gives up the receiving end. -/
  | leave : ChannelAct
  deriving Repr, DecidableEq

/-- Whether the writer does an act. -/
def ChannelAct.isWriters : ChannelAct → Bool
  | .take | .write _ | .leave => true
  | .send _ | .close | .release => false

/-- What has happened to a channel. -/
inductive ChannelEvent where
  /-- A text was sent; it was queued unless there was a fault. -/
  | sent : String → Option OutboxFault → ChannelEvent
  /-- The connection was closed; the closing was queued unless there was a fault. -/
  | closed : Option OutboxFault → ChannelEvent
  | released : ChannelEvent
  | taken : Option Outgoing → ChannelEvent
  | wrote : Outgoing → WriteResult → ChannelEvent
  | left : ChannelEvent
  deriving Repr, DecidableEq

namespace ChannelEvent

/-- The item that was queued. -/
def queued? : ChannelEvent → Option Outgoing
  | .sent text none => some (.text text)
  | .closed none => some .close
  | _ => none

/-- The frame that was written. -/
def written? : ChannelEvent → Option SocketMessage
  | .wrote item .done => some item.frame
  | _ => none

/-- Whether the connection was closed. -/
def isClosing : ChannelEvent → Bool
  | .closed _ => true
  | _ => false

end ChannelEvent

/-- An outbox with its writer, and what has happened to them in order. -/
structure Channel where
  outbox : Outbox
  writer : Writer
  /-- Whether there is anybody who may send. -/
  held : Bool
  history : List ChannelEvent
  deriving Repr, DecidableEq

namespace Channel

/-- The channel of a new connection. -/
def start : Channel := ⟨.empty, .waiting, true, []⟩

/-! ## What the history tells -/

/-- The items that were queued. -/
def queued (channel : Channel) : List Outgoing :=
  channel.history.filterMap ChannelEvent.queued?

/-- The texts that were accepted. -/
def accepted (channel : Channel) : List String :=
  channel.queued.filterMap Outgoing.text?

/-- The frames that were written. -/
def written (channel : Channel) : List SocketMessage :=
  channel.history.filterMap ChannelEvent.written?

/-- The texts that were accepted before the connection was closed for the first time. -/
def acceptedBeforeClosing (channel : Channel) : List String :=
  ((channel.history.takeWhile (!·.isClosing)).filterMap ChannelEvent.queued?).filterMap
    Outgoing.text?

/-- The connection was closed. -/
def WasClosed (channel : Channel) : Prop :=
  ∃ fault?, ChannelEvent.closed fault? ∈ channel.history

/-- A closing found the queue full. -/
def WasOvertaken (channel : Channel) : Prop :=
  ChannelEvent.closed (some .full) ∈ channel.history

/-- A write failed. -/
def HasFailed (channel : Channel) : Prop :=
  ∃ item, ChannelEvent.wrote item .failed ∈ channel.history

/-! ## What is done to a channel -/

/-- A channel to which something has happened. -/
def record (event : ChannelEvent) (channel : Channel) : Channel :=
  { channel with history := channel.history ++ [event] }

/-- Somebody sends a text. -/
def send (channel : Channel) (text : String) : Channel :=
  match channel.outbox.offer (.text text) with
  | .ok outbox => { channel with outbox }.record (.sent text none)
  | .error fault => channel.record (.sent text (some fault))

/-- Somebody closes the connection. -/
def close (channel : Channel) : Channel :=
  { channel with outbox := channel.outbox.close }.record (.closed channel.outbox.fault?)

/-- The writer takes what comes next; it stops if nothing is left and nobody may send. -/
def take? (channel : Channel) : Option Channel :=
  match channel.outbox.next? with
  | some (item, outbox) =>
      some ({ channel with outbox, writer := .writing item }.record (.taken (some item)))
  | none =>
      if channel.held then
        none
      else
        some ({ channel with writer := .stopped }.record (.taken none))

/-- Do one thing to a channel, if it can be done. -/
def step? (channel : Channel) : ChannelAct → Option Channel
  | .send text => if channel.held then some (channel.send text) else none
  | .close => if channel.held then some channel.close else none
  | .release =>
      if channel.held then some ({ channel with held := false }.record .released) else none
  | .take =>
      match channel.writer with
      | .waiting => channel.take?
      | _ => none
  | .write result =>
      match channel.writer with
      | .writing item =>
          some ({ channel with writer := .after item result }.record (.wrote item result))
      | _ => none
  | .leave =>
      match channel.writer with
      | .stopped => some ({ channel with outbox := channel.outbox.discard }.record .left)
      | _ => none

/-- Runs of a channel, which grow at the end. -/
inductive Runs (first : Channel) : List ChannelAct → Channel → Prop where
  | nil :
      Runs first [] first
  | snoc
      {acts : List ChannelAct}
      {act : ChannelAct}
      {channel after : Channel}
      (ran : Runs first acts channel)
      (stepped : channel.step? act = some after) :
      Runs first (acts ++ [act]) after

/-- The channels that runs lead to. -/
def Reachable (channel : Channel) : Prop :=
  ∃ acts, Runs start acts channel

/-- Everything that an act can do to a channel. -/
inductive Moved (channel : Channel) : ChannelAct → Channel → Prop where
  | accepted
      {text : String}
      (held : channel.held = true)
      (accepts : channel.outbox.Accepts) :
      Moved channel (.send text)
        ({ channel with outbox := channel.outbox.push (.text text) }.record (.sent text none))
  | refused
      {text : String}
      {fault : OutboxFault}
      (held : channel.held = true)
      (refuses : ¬channel.outbox.Accepts) :
      Moved channel (.send text) (channel.record (.sent text (some fault)))
  | closedBehind
      (held : channel.held = true)
      (accepts : channel.outbox.Accepts) :
      Moved channel .close
        ({ channel with outbox := channel.outbox.push .close }.record (.closed none))
  | closedAhead
      (held : channel.held = true)
      (receiving : channel.outbox.receiving = true)
      (full : Outbox.capacity ≤ channel.outbox.items.length) :
      Moved channel .close
        ({ channel with
            outbox := { channel.outbox with closeRequested := true } }.record
          (.closed (some .full)))
  | closedLate
      (held : channel.held = true)
      (idle : channel.outbox.receiving = false) :
      Moved channel .close (channel.record (.closed (some .closed)))
  | released
      (held : channel.held = true) :
      Moved channel .release ({ channel with held := false }.record .released)
  | took
      {item : Outgoing}
      {outbox : Outbox}
      (waiting : channel.writer = .waiting)
      (taken : channel.outbox.next? = some (item, outbox)) :
      Moved channel .take
        ({ channel with outbox, writer := .writing item }.record (.taken (some item)))
  | exhausted
      (waiting : channel.writer = .waiting)
      (nothing : channel.outbox.next? = none)
      (unheld : channel.held = false) :
      Moved channel .take ({ channel with writer := .stopped }.record (.taken none))
  | wrote
      {item : Outgoing}
      {result : WriteResult}
      (writing : channel.writer = .writing item) :
      Moved channel (.write result)
        ({ channel with writer := .after item result }.record (.wrote item result))
  | left
      (stopped : channel.writer = .stopped) :
      Moved channel .leave
        ({ channel with outbox := channel.outbox.discard }.record .left)

theorem moved_of_step?
    {channel after : Channel}
    {act : ChannelAct}
    (stepped : channel.step? act = some after) :
    Moved channel act after := by
  cases act with
  | send text =>
      simp only [step?, Option.ite_none_right_eq_some, Option.some.injEq] at stepped
      obtain ⟨held, rfl⟩ := stepped
      unfold send
      by_cases accepts : channel.outbox.Accepts
      · rw [Outbox.offer_of_accepts accepts]
        exact .accepted held accepts
      · obtain ⟨fault, refused⟩ := Outbox.offer_of_not_accepts accepts (.text text)
        rw [refused]
        exact .refused held accepts
  | close =>
      simp only [step?, Option.ite_none_right_eq_some, Option.some.injEq] at stepped
      obtain ⟨held, rfl⟩ := stepped
      unfold close
      cases found : channel.outbox.fault? with
      | none =>
          have accepts := (Outbox.fault?_eq_none_iff channel.outbox).mp found
          rw [Outbox.close_of_accepts accepts]
          exact .closedBehind held accepts
      | some fault =>
          rcases Outbox.of_fault? found with
              ⟨rfl, idle⟩ | ⟨rfl, receiving, full⟩
          · rw [Outbox.close_of_not_receiving idle]
            exact .closedLate held idle
          · rw [Outbox.close_of_full receiving full]
            exact .closedAhead held receiving full
  | release =>
      simp only [step?, Option.ite_none_right_eq_some, Option.some.injEq] at stepped
      obtain ⟨held, rfl⟩ := stepped
      exact .released held
  | take =>
      simp only [step?] at stepped
      split at stepped
      · next waiting =>
          unfold take? at stepped
          split at stepped
          · next taken =>
              cases stepped
              exact .took waiting taken
          · next nothing =>
              split at stepped
              · cases stepped
              · next unheld =>
                  cases stepped
                  exact .exhausted waiting nothing (by simpa using unheld)
      · cases stepped
  | write result =>
      simp only [step?] at stepped
      split at stepped
      · next writing =>
          cases stepped
          exact .wrote writing
      · cases stepped
  | leave =>
      simp only [step?] at stepped
      split at stepped
      · next stopped =>
          cases stepped
          exact .left stopped
      · cases stepped

end Channel

namespace Link

/-! ## The writer of a link

What serves a connection lets its writer take and write as long as something is there and the
line takes it.  That is a run of the channel in which only the writer acts.
-/

open Channel

/-- A writer that waits writes on behind what it takes. -/
theorem writeAll_of_taken
    {link attempted : Link}
    {outbox rest : Outbox}
    {item : Outgoing}
    {result : WriteResult}
    (waiting : link.writer = .waiting)
    (taken : outbox.next? = some (item, rest))
    (written : link.attempt item = (attempted, result)) :
    link.writeAll outbox =
      writeAll { attempted with writer := .after item result } rest := by
  rw [writeAll, waiting]
  dsimp only
  split
  · next found =>
      rw [taken] at found
      cases found
      rw [written]
  · next nothing =>
      rw [taken] at nothing
      cases nothing

theorem writeAll_of_nothing
    {link : Link}
    {outbox : Outbox}
    (waiting : link.writer = .waiting)
    (nothing : outbox.next? = none) :
    link.writeAll outbox = (link, outbox) := by
  rw [writeAll, waiting]
  dsimp only
  split
  · next found =>
      rw [nothing] at found
      cases found
  · rfl

/-- To write all that there is, is to take and to write, or to leave. -/
theorem runs_writeAll
    (link : Link)
    (outbox : Outbox)
    {first channel : Channel}
    {acts : List ChannelAct}
    (ran : Runs first acts channel)
    (sameOutbox : channel.outbox = outbox)
    (sameWriter : channel.writer = link.writer) :
    ∃ more after,
      Runs first (acts ++ more) after ∧
        (∀ act ∈ more, act.isWriters = true) ∧
        after.outbox = (link.writeAll outbox).2 ∧
        after.writer = (link.writeAll outbox).1.writer := by
  induction link, outbox using writeAll.induct generalizing channel acts with
  | case1 link outbox waiting item rest taken attempted result written inductionHypothesis =>
      rw [writeAll_of_taken waiting taken written]
      let busy : Channel :=
        { channel with outbox := rest, writer := .writing item }.record (.taken (some item))
      let done : Channel :=
        { busy with writer := .after item result }.record (.wrote item result)
      have took : channel.step? .take = some busy := by
        simp only [step?, sameWriter, waiting, take?, sameOutbox, taken]
        rfl
      have wrote : busy.step? (.write result) = some done := rfl
      obtain ⟨more, after, ranOn, onlyWriter, outboxAfter, writerAfter⟩ :=
        inductionHypothesis ((ran.snoc took).snoc wrote) rfl rfl
      refine ⟨.take :: .write result :: more, after, by simpa using ranOn, ?_,
        outboxAfter, writerAfter⟩
      intro act member
      rcases List.mem_cons.mp member with rfl | member
      · rfl
      · rcases List.mem_cons.mp member with rfl | member
        · rfl
        · exact onlyWriter act member
  | case2 link outbox waiting nothing =>
      rw [writeAll_of_nothing waiting nothing]
      exact ⟨[], channel, by rwa [List.append_nil],
        fun _ member => (List.not_mem_nil member).elim, sameOutbox, sameWriter⟩
  | case3 link outbox item writing =>
      rw [writeAll, writing]
      exact ⟨[], channel, by rwa [List.append_nil],
        fun _ member => (List.not_mem_nil member).elim, sameOutbox, sameWriter⟩
  | case4 link outbox stopped =>
      have left : channel.step? .leave = some
          ({ channel with outbox := channel.outbox.discard }.record .left) := by
        simp only [step?, sameWriter, stopped]
      rw [writeAll, stopped]
      exact ⟨[.leave], _, ran.snoc left, by simp [ChannelAct.isWriters],
        congrArg Outbox.discard sameOutbox, sameWriter⟩

/-- What a link does when its writer goes on is a run of its channel by the writer alone. -/
theorem runs_pump
    (link : Link)
    (channel : Channel)
    (sameWriter : channel.writer = link.writer) :
    ∃ acts after,
      Runs channel acts after ∧
        (∀ act ∈ acts, act.isWriters = true) ∧
        after.outbox = (link.pump channel.outbox).2 ∧
        after.writer = (link.pump channel.outbox).1.writer := by
  unfold pump resumeWriting
  cases writing : link.writer with
  | waiting | stopped =>
      exact runs_writeAll link channel.outbox .nil rfl sameWriter
  | writing item =>
      generalize link.flush = flushed
      obtain ⟨after, result⟩ := flushed
      have wrote : channel.step? (.write result) = some
          ({ channel with writer := .after item result }.record (.wrote item result)) := by
        simp only [step?, sameWriter, writing]
      obtain ⟨more, reached, ran, onlyWriter, sameAfter⟩ :=
        runs_writeAll { after with writer := .after item result } channel.outbox
          (Runs.nil.snoc wrote) rfl rfl
      refine ⟨.write result :: more, reached, ran, ?_, sameAfter⟩
      intro act member
      rcases List.mem_cons.mp member with rfl | member
      · rfl
      · exact onlyWriter act member

end Link

end SignalRelay
