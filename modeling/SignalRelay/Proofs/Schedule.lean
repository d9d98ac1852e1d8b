import SignalRelay.Proofs.Writing

namespace SignalRelay

/-!
# Schedules

A schedule says what is done to a channel, whether it can be done or not: who sends finds that
nobody may send any more, and a writer that has stopped takes nothing.  So one schedule can be
carried out on two channels, whatever they differ in.
-/

namespace Channel

/-- Do one thing to a channel; what cannot be done does nothing. -/
def act (channel : Channel) (act : ChannelAct) : Channel :=
  (channel.step? act).getD channel

/-- Do one thing after another to a channel. -/
def perform (channel : Channel) (acts : List ChannelAct) : Channel :=
  acts.foldl act channel

variable {first channel : Channel} {item : Outgoing}

theorem perform_append
    (channel : Channel)
    (acts more : List ChannelAct) :
    channel.perform (acts ++ more) = (channel.perform acts).perform more :=
  List.foldl_append

theorem perform_cons
    (channel : Channel)
    (act : ChannelAct)
    (later : List ChannelAct) :
    channel.perform (act :: later) = (channel.act act).perform later :=
  rfl

theorem perform_append_cons
    (channel : Channel)
    (earlier : List ChannelAct)
    (act : ChannelAct)
    (later : List ChannelAct) :
    channel.perform (earlier ++ act :: later) =
      ((channel.perform earlier).act act).perform later :=
  perform_append channel earlier (act :: later)

/-- What a schedule does is a run of those acts that can be done. -/
theorem runs_perform
    {done : List ChannelAct}
    (ran : Runs first done channel)
    (acts : List ChannelAct) :
    ∃ more, Runs first more (channel.perform acts) := by
  induction acts generalizing channel done with
  | nil => exact ⟨done, ran⟩
  | cons act later inductionHypothesis =>
      cases stepped : channel.step? act with
      | none =>
          have same : channel.act act = channel := by rw [Channel.act, stepped, Option.getD_none]
          rw [perform_cons, same]
          exact inductionHypothesis ran
      | some after =>
          have same : channel.act act = after := by rw [Channel.act, stepped, Option.getD_some]
          rw [perform_cons, same]
          exact inductionHypothesis (ran.snoc stepped)

theorem reachable_perform
    (acts : List ChannelAct) :
    Reachable (start.perform acts) :=
  runs_perform .nil acts

/-- What was written stays written. -/
theorem written_perform
    (channel : Channel)
    (acts : List ChannelAct) :
    channel.written <+: (channel.perform acts).written := by
  induction acts generalizing channel with
  | nil => exact List.prefix_rfl
  | cons act later inductionHypothesis =>
      refine List.IsPrefix.trans ?_ (inductionHypothesis (channel.act act))
      unfold Channel.act
      cases stepped : channel.step? act with
      | none => exact List.prefix_rfl
      | some after =>
          obtain ⟨event, recorded, -⟩ := history_of_step? stepped
          rw [Option.getD_some, channel.written_recorded recorded]
          exact List.prefix_append _ _

theorem written_perform_of_stopped
    (stopped : channel.writer = .stopped)
    (acts : List ChannelAct) :
    (channel.perform acts).written = channel.written := by
  obtain ⟨done, ran⟩ := runs_perform .nil acts
  exact (written_of_stopped stopped ran).2

/-! ## Single acts -/

theorem held_act
    (channel : Channel)
    (act : ChannelAct) :
    (channel.act act).held = (channel.held && decide (act ≠ .release)) := by
  unfold Channel.act
  cases stepped : channel.step? act with
  | none =>
      cases act with
      | release =>
          simp only [step?, ite_eq_right_iff, reduceCtorEq, imp_false,
            Bool.not_eq_true] at stepped
          simp [stepped]
      | _ => simp
  | some after =>
      rw [Option.getD_some]
      cases moved_of_step? stepped with
      | released => simp [record]
      | _ => simp [record]

/-- Only to take and to write concern the writer. -/
theorem writer_act
    (channel : Channel)
    (act : ChannelAct)
    (notTake : act ≠ .take)
    (notWrite : ∀ result, act ≠ .write result) :
    (channel.act act).writer = channel.writer ∧
      (channel.act act).written = channel.written := by
  unfold Channel.act
  cases stepped : channel.step? act with
  | none => exact ⟨rfl, rfl⟩
  | some after =>
      rw [Option.getD_some]
      cases moved_of_step? stepped with
      | took | exhausted => exact (notTake rfl).elim
      | wrote => exact (notWrite _ rfl).elim
      | _ => exact ⟨rfl, channel.written_kept rfl rfl⟩

theorem outbox_act_send
    (channel : Channel)
    (text : String) :
    (channel.act (.send text)).outbox =
      if channel.held then channel.outbox.afterOffer (.text text) else channel.outbox := by
  cases held : channel.held with
  | false => simp [act, step?, held]
  | true =>
      simp only [act, step?, held, ↓reduceIte, Option.getD_some, send]
      by_cases accepts : channel.outbox.Accepts
      · rw [Outbox.offer_of_accepts accepts, Outbox.afterOffer, if_pos accepts]
        rfl
      · obtain ⟨fault, refused⟩ := Outbox.offer_of_not_accepts accepts (.text text)
        rw [refused, Outbox.afterOffer, if_neg accepts]
        rfl

theorem outbox_act_close
    (channel : Channel) :
    (channel.act .close).outbox =
      if channel.held then channel.outbox.close else channel.outbox := by
  cases held : channel.held <;> simp [act, step?, held, close, record]

theorem outbox_act_release
    (channel : Channel) :
    (channel.act .release).outbox = channel.outbox := by
  cases held : channel.held <;> simp [act, step?, held, record]

theorem act_take_of_waiting
    {rest : Outbox}
    (waiting : channel.writer = .waiting)
    (taken : channel.outbox.next? = some (item, rest)) :
    channel.act .take =
      { channel with outbox := rest, writer := .writing item }.record (.taken (some item)) := by
  simp only [act, step?, waiting, take?, taken, Option.getD_some]

theorem written_act_take
    {rest : Outbox}
    (waiting : channel.writer = .waiting)
    (taken : channel.outbox.next? = some (item, rest)) :
    (channel.act .take).written = channel.written := by
  rw [act_take_of_waiting waiting taken]
  exact channel.written_kept rfl rfl

theorem act_take_of_not_waiting
    (busy : channel.writer ≠ .waiting) :
    channel.act .take = channel := by
  unfold Channel.act step?
  cases writer : channel.writer with
  | waiting => exact (busy writer).elim
  | writing | stopped => rfl

theorem act_write_of_writing
    (writing : channel.writer = .writing item)
    (result : WriteResult) :
    channel.act (.write result) =
      { channel with writer := .after item result }.record (.wrote item result) := by
  simp only [act, step?, writing, Option.getD_some]

theorem written_act_write
    (writing : channel.writer = .writing item)
    (result : WriteResult) :
    (channel.act (.write result)).written =
      channel.written ++ (ChannelEvent.wrote item result).written?.toList := by
  rw [act_write_of_writing writing]
  exact channel.written_recorded rfl

theorem act_write_of_not_writing
    (idle : ∀ item, channel.writer ≠ .writing item)
    (result : WriteResult) :
    channel.act (.write result) = channel := by
  unfold Channel.act step?
  cases writer : channel.writer with
  | writing item => exact (idle item writer).elim
  | waiting | stopped => rfl

theorem act_leave_of_not_stopped
    (running : channel.writer ≠ .stopped) :
    channel.act .leave = channel := by
  unfold Channel.act step?
  cases writer : channel.writer with
  | stopped => exact (running writer).elim
  | waiting | writing => rfl

end Channel

end SignalRelay
