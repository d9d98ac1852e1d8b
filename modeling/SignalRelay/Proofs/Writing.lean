import SignalRelay.Proofs.Channel

namespace SignalRelay

/-!
# What writers write

A writer writes the texts of a channel in the order in which they were accepted, and a closing
after them at most.  `Channel.Course` says how far it has come, and what that has to do with
what was queued; every act keeps to the course.

Once the connection is closed, each item that the writer takes brings it nearer to the closing,
however much is sent behind it.  `Outbox.distance` counts how many it takes until then.
-/

open List

namespace Outbox

/-- How many items are taken from an outbox that holds a closing until that is taken. -/
def distance (outbox : Outbox) : Nat :=
  if outbox.closeRequested then 1 else outbox.items.idxOf .close + 1

theorem next?_eq_none
    {outbox : Outbox}
    (nothing : outbox.next? = none) :
    outbox.items = [] ∧ outbox.closeRequested = false := by
  unfold next? at nothing
  split at nothing
  · cases nothing
  · next quiet =>
      split at nothing
      · next empty => exact ⟨empty, by simpa using quiet⟩
      · cases nothing

theorem next?_of_holdsClosing
    {outbox : Outbox}
    (holds : outbox.HoldsClosing) :
    ∃ item rest, outbox.next? = some (item, rest) := by
  cases taken : outbox.next? with
  | some pair =>
      exact ⟨pair.1, pair.2, rfl⟩
  | none =>
      obtain ⟨empty, quiet⟩ := next?_eq_none taken
      rcases holds with queued | requested
      · rw [empty] at queued
        cases queued
      · rw [quiet] at requested
        cases requested

theorem one_le_distance
    (outbox : Outbox) :
    1 ≤ outbox.distance := by
  unfold distance
  split
  · exact Nat.le_refl _
  · exact Nat.succ_pos _

theorem holdsClosing_push
    {outbox : Outbox}
    (holds : outbox.HoldsClosing)
    (item : Outgoing) :
    (outbox.push item).HoldsClosing :=
  holds.imp_left (List.mem_append_left _)

/-- What is sent behind a closing does not put it off. -/
theorem distance_push
    {outbox : Outbox}
    (holds : outbox.HoldsClosing)
    (item : Outgoing) :
    (outbox.push item).distance = outbox.distance := by
  unfold distance push
  split
  · rfl
  · next quiet =>
      have queued := holds.resolve_right quiet
      rw [List.idxOf_append, if_pos queued]

/-- What is taken is the closing, or brings it nearer. -/
theorem distance_of_next?
    {outbox rest : Outbox}
    {item : Outgoing}
    (holds : outbox.HoldsClosing)
    (taken : outbox.next? = some (item, rest)) :
    item = .close ∨ rest.HoldsClosing ∧ rest.distance + 1 = outbox.distance := by
  rcases next?_eq_some taken with ⟨-, isClosing, -⟩ | ⟨quiet, held, same⟩
  · exact .inl isClosing
  · by_cases isClosing : item = .close
    · exact .inl isClosing
    · right
      have queued : .close ∈ rest.items := by
        rcases holds with queued | requested
        · rw [held] at queued
          exact (List.mem_cons.mp queued).resolve_left (Ne.symm isClosing)
        · rw [quiet] at requested
          cases requested
      have stillQuiet : rest.closeRequested = false := by
        rw [same]
        exact quiet
      refine ⟨.inl queued, ?_⟩
      have apart : (item == .close) = false := beq_false_of_ne isClosing
      simp [distance, quiet, stillQuiet, held, List.idxOf_cons, apart]

/-- A closing has at most as many items before it as a queue holds. -/
theorem distance_close
    {outbox : Outbox}
    (receiving : outbox.receiving = true) :
    outbox.close.HoldsClosing ∧ outbox.close.distance ≤ capacity := by
  by_cases full : capacity ≤ outbox.items.length
  · rw [close_of_full receiving full]
    exact ⟨.inr rfl, show 1 ≤ capacity by decide⟩
  · have room : outbox.items.length < capacity := Nat.not_le.mp full
    rw [close_of_accepts ⟨receiving, room⟩]
    refine ⟨.inl (List.mem_append_right _ List.mem_cons_self), ?_⟩
    have before :
        (outbox.items ++ [Outgoing.close]).idxOf .close ≤ outbox.items.length := by
      apply Nat.le_of_lt_succ
      have inside := List.idxOf_lt_length_iff.mpr
        (List.mem_append_right outbox.items (List.mem_singleton_self Outgoing.close))
      rwa [List.length_append] at inside
    unfold distance push
    split
    · decide
    · exact Nat.lt_of_le_of_lt before room

end Outbox

namespace Channel

/-! ## What the history tells, one event later -/

section Recorded

variable (channel : Channel) {after : Channel} {event : ChannelEvent}

theorem queued_recorded
    (recorded : after.history = channel.history ++ [event]) :
    after.queued = channel.queued ++ event.queued?.toList := by
  cases found : event.queued? <;> simp [queued, recorded, found]

theorem queued_kept
    (recorded : after.history = channel.history ++ [event])
    (nothing : event.queued? = none) :
    after.queued = channel.queued := by
  rw [channel.queued_recorded recorded, nothing]
  exact List.append_nil _

theorem written_recorded
    (recorded : after.history = channel.history ++ [event]) :
    after.written = channel.written ++ event.written?.toList := by
  cases found : event.written? <;> simp [written, recorded, found]

theorem written_kept
    (recorded : after.history = channel.history ++ [event])
    (nothing : event.written? = none) :
    after.written = channel.written := by
  rw [channel.written_recorded recorded, nothing]
  exact List.append_nil _

end Recorded

variable {channel after : Channel} {texts : List String}

theorem queued_grow
    (grown : channel.history <+: after.history) :
    channel.queued <+: after.queued :=
  grown.filterMap _

theorem WasOvertaken.grow
    (overtaken : channel.WasOvertaken)
    (grown : channel.history <+: after.history) :
    after.WasOvertaken :=
  grown.subset overtaken

theorem HasFailed.grow
    (failed : channel.HasFailed)
    (grown : channel.history <+: after.history) :
    after.HasFailed := by
  obtain ⟨item, member⟩ := failed
  exact ⟨item, grown.subset member⟩

/-! ## How far the writer has come -/

/-- Some texts are all that comes before a closing, or a closing has overtaken the others. -/
def CutAfter (channel : Channel) (texts : List String) : Prop :=
  (∃ later, channel.queued = texts.map .text ++ .close :: later) ∨
    channel.WasOvertaken ∧ texts.map .text <+: channel.queued

/-- How far a writer has come that has written some texts, by what it is doing. -/
inductive Course (channel : Channel) (texts : List String) : Writer → Prop where
  /-- What was queued is written or still queued. -/
  | waiting
      (receiving : channel.outbox.receiving = true)
      (written : channel.written = texts.map .text)
      (queued : channel.queued = texts.map .text ++ channel.outbox.items)
      (signalled : channel.outbox.closeRequested = true → channel.WasOvertaken) :
      Course channel texts .waiting
  /-- What was queued is written, in hand, or still queued. -/
  | writing
      {text : String}
      (receiving : channel.outbox.receiving = true)
      (written : channel.written = texts.map .text)
      (queued : channel.queued = texts.map .text ++ .text text :: channel.outbox.items)
      (signalled : channel.outbox.closeRequested = true → channel.WasOvertaken) :
      Course channel texts (.writing (.text text))
  | closing
      (written : channel.written = texts.map .text)
      (cut : channel.CutAfter texts) :
      Course channel texts (.writing .close)
  /-- It has written the closing. -/
  | closed
      (written : channel.written = texts.map .text ++ [.close (some .normal)])
      (cut : channel.CutAfter texts) :
      Course channel texts .stopped
  /-- It could not write something. -/
  | failed
      (failure : channel.HasFailed)
      (written : channel.written = texts.map .text)
      (ordered : texts.map .text <+: channel.queued) :
      Course channel texts .stopped
  /-- It has written everything, and nobody may send. -/
  | exhausted
      (unheld : channel.held = false)
      (empty : channel.outbox.items = [])
      (written : channel.written = texts.map .text)
      (queued : channel.queued = texts.map .text) :
      Course channel texts .stopped

theorem CutAfter.grow
    (cut : channel.CutAfter texts)
    (grown : channel.history <+: after.history) :
    after.CutAfter texts := by
  obtain ⟨more, whole⟩ := queued_grow grown
  rcases cut with ⟨later, shape⟩ | ⟨overtaken, ordered⟩
  · exact .inl ⟨later ++ more, by simp [← whole, shape]⟩
  · exact .inr ⟨overtaken.grow grown, ordered.trans ⟨more, whole⟩⟩

theorem CutAfter.ordered
    (cut : channel.CutAfter texts) :
    texts.map .text <+: channel.queued := by
  rcases cut with ⟨later, shape⟩ | ⟨-, ordered⟩
  · exact ⟨_, shape.symm⟩
  · exact ordered

namespace Course

/-- To send and to close leave a writer where it is. -/
theorem sent
    {writer : Writer}
    (course : Course channel texts writer)
    {more : List Outgoing}
    (held : channel.held = true)
    (sameReceiving : after.outbox.receiving = channel.outbox.receiving)
    (grown : channel.history <+: after.history)
    (nothingWritten : after.written = channel.written)
    (queuedMore : after.queued = channel.queued ++ more)
    (heldMore : after.outbox.items = channel.outbox.items ++ more)
    (requested :
      after.outbox.closeRequested = true →
        channel.outbox.closeRequested = true ∨ after.WasOvertaken) :
    Course after texts writer := by
  cases course with
  | waiting receiving written queued signalled =>
      refine .waiting (sameReceiving.trans receiving) (nothingWritten.trans written) ?_
        fun request => (requested request).elim (fun before => (signalled before).grow grown) id
      simp only [queuedMore, queued, heldMore, List.append_assoc]
  | writing receiving written queued signalled =>
      refine .writing (sameReceiving.trans receiving) (nothingWritten.trans written) ?_
        fun request => (requested request).elim (fun before => (signalled before).grow grown) id
      simp only [queuedMore, queued, heldMore, List.append_assoc, List.cons_append]
  | closing written cut =>
      exact .closing (nothingWritten.trans written) (cut.grow grown)
  | closed written cut =>
      exact .closed (nothingWritten.trans written) (cut.grow grown)
  | failed failure written ordered =>
      exact .failed (failure.grow grown) (nothingWritten.trans written)
        (ordered.trans (queued_grow grown))
  | exhausted unheld =>
      rw [unheld] at held
      cases held

/-- What is taken is in hand, and behind a closing nothing is. -/
theorem took
    (course : Course channel texts .waiting)
    {item : Outgoing}
    {rest : Outbox}
    (taken : channel.outbox.next? = some (item, rest)) :
    Course
      ({ channel with outbox := rest, writer := .writing item }.record (.taken (some item)))
      texts (.writing item) := by
  have kept : channel.history <+: channel.history ++ [.taken (some item)] :=
    List.prefix_append _ _
  cases course with
  | waiting receiving written queued signalled =>
      have stillWritten
          {after : Channel}
          (recorded : after.history = channel.history ++ [.taken (some item)]) :
          after.written = texts.map .text :=
        (channel.written_kept recorded rfl).trans written
      -- A closing is taken ahead of the queue only if one found it full.
      rcases Outbox.next?_eq_some taken with ⟨requested, rfl, -⟩ | ⟨quiet, held, same⟩
      · exact .closing (stillWritten rfl)
          (.grow (.inr ⟨signalled requested, queued ▸ List.prefix_append _ _⟩) kept)
      · cases item with
        | text text =>
            refine .writing ?_ (stillWritten rfl) ?_ ?_
            · change rest.receiving = true
              rw [Outbox.receiving_of_next? taken, receiving]
            · rw [channel.queued_kept rfl rfl, queued, held]
              rfl
            · intro (requested : rest.closeRequested = true)
              rw [same, quiet] at requested
              cases requested
        | close =>
            exact .closing (stillWritten rfl) (.grow (.inl ⟨rest.items, held ▸ queued⟩) kept)

/-- Where nothing is left to take, everything is written. -/
theorem ranOut
    (course : Course channel texts .waiting)
    (nothing : channel.outbox.next? = none)
    (unheld : channel.held = false) :
    Course ({ channel with writer := .stopped }.record (.taken none)) texts .stopped := by
  cases course with
  | waiting receiving written queued signalled =>
      obtain ⟨empty, -⟩ := Outbox.next?_eq_none nothing
      rw [empty, List.append_nil] at queued
      exact .exhausted unheld empty ((channel.written_kept rfl rfl).trans written)
        ((channel.queued_kept rfl rfl).trans queued)

/-- What is in hand is written next, or it fails and the writer stops. -/
theorem wrote
    {item : Outgoing}
    (course : Course channel texts (.writing item))
    (result : WriteResult) :
    ∃ texts',
      Course ({ channel with writer := .after item result }.record (.wrote item result))
        texts' (.after item result) := by
  have kept : channel.history <+: channel.history ++ [.wrote item result] :=
    List.prefix_append _ _
  have failure (failed : result = .failed) :
      HasFailed
        ({ channel with writer := .after item result }.record (.wrote item result)) :=
    ⟨item, by simp [record, failed]⟩
  cases course with
  | @writing text receiving written queued signalled =>
      cases result with
      | done =>
          refine ⟨texts ++ [text], .waiting receiving ?_ ?_ fun request => ?_⟩
          · rw [channel.written_recorded rfl, written, List.map_append]
            rfl
          · rw [channel.queued_kept rfl rfl, queued, List.map_append, List.append_assoc]
            rfl
          · exact (signalled request).grow kept
      | blocked =>
          exact ⟨texts, .writing receiving ((channel.written_kept rfl rfl).trans written)
            ((channel.queued_kept rfl rfl).trans queued)
            fun request => (signalled request).grow kept⟩
      | failed =>
          refine ⟨texts, .failed (failure rfl) ((channel.written_kept rfl rfl).trans written) ?_⟩
          rw [channel.queued_kept rfl rfl, queued]
          exact List.prefix_append _ _
  | closing written cut =>
      cases result with
      | done =>
          refine ⟨texts, .closed ?_ (cut.grow kept)⟩
          rw [channel.written_recorded rfl, written]
          rfl
      | blocked =>
          exact ⟨texts, .closing ((channel.written_kept rfl rfl).trans written)
            (cut.grow kept)⟩
      | failed =>
          exact ⟨texts, .failed (failure rfl) ((channel.written_kept rfl rfl).trans written)
            (cut.grow kept).ordered⟩

/-- A writer that has stopped stays where it is. -/
theorem left
    (course : Course channel texts .stopped) :
    Course ({ channel with outbox := channel.outbox.discard }.record .left) texts
      .stopped := by
  have kept : channel.history <+: channel.history ++ [.left] := List.prefix_append _ _
  cases course with
  | closed written cut =>
      exact .closed ((channel.written_kept rfl rfl).trans written) (cut.grow kept)
  | failed failure written ordered =>
      exact .failed (failure.grow kept) ((channel.written_kept rfl rfl).trans written)
        (ordered.trans (queued_grow kept))
  | exhausted unheld empty written queued =>
      exact .exhausted unheld rfl ((channel.written_kept rfl rfl).trans written)
        ((channel.queued_kept rfl rfl).trans queued)

/-- Every act keeps a writer on its course. -/
theorem step
    (course : Course channel texts channel.writer)
    {act : ChannelAct}
    (stepped : channel.step? act = some after) :
    ∃ texts', Course after texts' after.writer := by
  cases moved_of_step? stepped with
  | accepted held | closedBehind held =>
      exact ⟨texts, course.sent held rfl (List.prefix_append _ _)
        (channel.written_kept rfl rfl) (channel.queued_recorded rfl) rfl .inl⟩
  | refused held | closedLate held | released held =>
      exact ⟨texts, course.sent held rfl (List.prefix_append _ _)
        (channel.written_kept rfl rfl) (channel.queued_recorded rfl)
        (List.append_nil _).symm .inl⟩
  | closedAhead held =>
      have overtaken : ChannelEvent.closed (some .full) ∈
          channel.history ++ [.closed (some .full)] :=
        List.mem_append_right _ List.mem_cons_self
      exact ⟨texts, course.sent held rfl (List.prefix_append _ _)
        (channel.written_kept rfl rfl) (channel.queued_recorded rfl)
        (List.append_nil _).symm fun _ => .inr overtaken⟩
  | took waiting taken =>
      rw [waiting] at course
      exact ⟨texts, course.took taken⟩
  | exhausted waiting nothing unheld =>
      rw [waiting] at course
      exact ⟨texts, course.ranOut nothing unheld⟩
  | wrote writing =>
      rw [writing] at course
      exact course.wrote _
  | left stopped =>
      rw [stopped] at course
      exact ⟨texts, stopped.symm ▸ course.left⟩

end Course

theorem Course.of_reachable
    (reachable : Reachable channel) :
    ∃ texts, Course channel texts channel.writer := by
  obtain ⟨acts, ran⟩ := reachable
  induction ran with
  | nil =>
      exact ⟨[], .waiting rfl rfl rfl fun requested => by cases requested⟩
  | snoc ran stepped inductionHypothesis =>
      obtain ⟨texts, course⟩ := inductionHypothesis
      exact course.step stepped

/-! ## What was queued before the closing -/

theorem close_mem_queued
    (member : .close ∈ channel.queued) :
    channel.WasClosed := by
  obtain ⟨event, happened, isClosing⟩ := List.mem_filterMap.mp member
  cases event with
  | sent text fault? =>
      cases fault? <;> cases isClosing
  | closed fault? =>
      exact ⟨fault?, happened⟩
  | released | taken | wrote | left =>
      cases isClosing

theorem CutAfter.wasClosed
    (cut : channel.CutAfter texts) :
    channel.WasClosed := by
  rcases cut with ⟨later, shape⟩ | ⟨overtaken, -⟩
  · exact close_mem_queued (by simp [shape])
  · exact ⟨_, overtaken⟩

/-- Items without a closing are texts. -/
theorem eq_map_text
    {items : List Outgoing}
    (unclosed : .close ∉ items) :
    items = (items.filterMap Outgoing.text?).map .text := by
  induction items with
  | nil =>
      rfl
  | cons item rest inductionHypothesis =>
      obtain ⟨notClose, restUnclosed⟩ := List.ne_and_not_mem_of_not_mem_cons unclosed
      cases item with
      | text text =>
          exact congrArg (.text text :: ·) (inductionHypothesis restUnclosed)
      | close =>
          exact (notClose rfl).elim

/-- What comes before the first closing goes on until there is one. -/
theorem takeWhile_of_not_wasClosed
    (unclosed : ¬channel.WasClosed)
    (more : List ChannelEvent) :
    (channel.history ++ more).takeWhile (!·.isClosing) =
      channel.history ++ more.takeWhile (!·.isClosing) := by
  apply List.takeWhile_append_of_pos
  intro event happened
  cases event with
  | closed fault? => exact (unclosed ⟨fault?, happened⟩).elim
  | sent | released | taken | wrote | left => rfl

/-- What was accepted before the first closing stays what it is. -/
theorem acceptedBeforeClosing_grow
    (wasClosed : channel.WasClosed)
    (grown : channel.history <+: after.history) :
    after.acceptedBeforeClosing = channel.acceptedBeforeClosing := by
  obtain ⟨more, whole⟩ := grown
  obtain ⟨fault?, member⟩ := wasClosed
  unfold acceptedBeforeClosing
  rw [← whole, List.takeWhile_append, if_neg]
  intro sameLength
  have all := (List.takeWhile_prefix fun event : ChannelEvent => !event.isClosing).eq_of_length
    sameLength
  have passes :=
    List.all_takeWhile (l := channel.history) (p := fun event => !event.isClosing)
  rw [all] at passes
  cases List.all_eq_true.mp passes _ member

theorem history_of_step?
    {act : ChannelAct}
    (stepped : channel.step? act = some after) :
    ∃ event,
      after.history = channel.history ++ [event] ∧
        (event.isClosing = true → act = .close) := by
  cases moved_of_step? stepped with
  | closedBehind | closedAhead | closedLate =>
      exact ⟨_, rfl, fun _ => rfl⟩
  | accepted | refused | released | took | exhausted | wrote | left =>
      exact ⟨_, rfl, fun isClosing => by cases isClosing⟩

/-- When a connection is closed for the first time, the closing stands behind what was
accepted before, unless it overtakes that or the writer has failed. -/
theorem queued_of_close
    (course : Course channel texts channel.writer)
    (unclosed : ¬channel.WasClosed)
    (stepped : channel.step? .close = some after) :
    after.queued = after.acceptedBeforeClosing.map .text ++ [.close] ∨
      after.WasOvertaken ∨
      after.HasFailed := by
  cases moved_of_step? stepped with
  | closedBehind held accepts =>
      left
      have before := takeWhile_of_not_wasClosed unclosed [.closed none]
      have texts := eq_map_text fun member => unclosed (close_mem_queued member)
      unfold acceptedBeforeClosing record
      rw [channel.queued_recorded rfl, before]
      simpa [ChannelEvent.queued?, ChannelEvent.isClosing, queued] using texts
  | closedAhead held receiving full =>
      exact .inr (.inl (List.mem_append_right _ List.mem_cons_self))
  | closedLate held idle =>
      generalize channel.writer = writer at course
      cases course with
      | waiting receiving | writing receiving =>
          rw [idle] at receiving
          cases receiving
      | closing _ cut | closed _ cut =>
          exact (unclosed cut.wasClosed).elim
      | failed failure =>
          exact .inr (.inr (failure.grow (List.prefix_append _ _)))
      | exhausted unheld =>
          rw [unheld] at held
          cases held

/-- Behind what was accepted before the first closing stands that closing, unless it has
overtaken something or the writer has failed. -/
theorem queued_of_wasClosed
    (reachable : Reachable channel)
    (wasClosed : channel.WasClosed) :
    (∃ later, channel.queued = channel.acceptedBeforeClosing.map .text ++ .close :: later) ∨
      channel.WasOvertaken ∨
      channel.HasFailed := by
  obtain ⟨acts, ran⟩ := reachable
  induction ran with
  | nil =>
      obtain ⟨fault?, member⟩ := wasClosed
      cases member
  | @snoc acts act channel after ran stepped inductionHypothesis =>
      obtain ⟨event, recorded, closing⟩ := history_of_step? stepped
      have grown : channel.history <+: after.history := recorded ▸ List.prefix_append _ _
      -- Only the first closing decides; what is queued later stands behind it.
      by_cases before : channel.WasClosed
      · rcases inductionHypothesis before with ⟨later, shape⟩ | overtaken | failed
        · obtain ⟨more, whole⟩ := queued_grow grown
          refine .inl ⟨later ++ more, ?_⟩
          rw [← whole, shape, acceptedBeforeClosing_grow before grown]
          simp
        · exact .inr (.inl (overtaken.grow grown))
        · exact .inr (.inr (failed.grow grown))
      · obtain ⟨fault?, member⟩ := wasClosed
        rw [recorded] at member
        have now := (List.mem_append.mp member).resolve_left fun inBefore =>
          before ⟨fault?, inBefore⟩
        cases List.mem_singleton.mp now
        cases closing rfl
        obtain ⟨texts, course⟩ := Course.of_reachable ⟨acts, ran⟩
        exact (queued_of_close course before stepped).imp_left fun shape => ⟨[], shape⟩

/-! ## How long a closing takes -/

/-- A closing is on its way to a writer, which takes at most some number of items until it
stops. -/
inductive ClosesWithin (outbox : Outbox) : Writer → Nat → Prop where
  | waiting
      (holds : outbox.HoldsClosing) :
      ClosesWithin outbox .waiting outbox.distance
  | writing
      {text : String}
      (holds : outbox.HoldsClosing) :
      ClosesWithin outbox (.writing (.text text)) outbox.distance
  | closing :
      ClosesWithin outbox (.writing .close) 0
  | stopped :
      ClosesWithin outbox .stopped 0

namespace ClosesWithin

variable {outbox rest : Outbox} {writer : Writer} {item : Outgoing} {count : Nat}

/-- What others do to the outbox does not put a closing off. -/
theorem sent
    (closes : ClosesWithin outbox writer count)
    (nearer :
      outbox.HoldsClosing → rest.HoldsClosing ∧ rest.distance ≤ outbox.distance) :
    ∃ fewer, ClosesWithin rest writer fewer ∧ fewer ≤ count := by
  cases closes with
  | waiting holds =>
      exact ⟨_, .waiting (nearer holds).1, (nearer holds).2⟩
  | writing holds =>
      exact ⟨_, .writing (nearer holds).1, (nearer holds).2⟩
  | closing =>
      exact ⟨0, .closing, Nat.le_refl _⟩
  | stopped =>
      exact ⟨0, .stopped, Nat.le_refl _⟩

/-- What is taken is one item fewer until the closing. -/
theorem took
    (closes : ClosesWithin outbox .waiting count)
    (taken : outbox.next? = some (item, rest)) :
    ∃ fewer, ClosesWithin rest (.writing item) fewer ∧ 1 + fewer ≤ count := by
  cases closes with
  | waiting holds =>
      cases item with
      | close =>
          exact ⟨0, .closing, outbox.one_le_distance⟩
      | text text =>
          obtain ⟨stillHolds, nearer⟩ :=
            (Outbox.distance_of_next? holds taken).resolve_left (by simp)
          exact ⟨_, .writing stillHolds,
            Nat.le_of_eq ((Nat.add_comm ..).trans nearer)⟩

/-- To write a text does not put a closing off, and to write the closing ends it. -/
theorem wrote
    (closes : ClosesWithin outbox (.writing item) count)
    (result : WriteResult) :
    ∃ fewer, ClosesWithin outbox (.after item result) fewer ∧ fewer ≤ count := by
  cases closes with
  | writing holds =>
      cases result with
      | done => exact ⟨_, .waiting holds, Nat.le_refl _⟩
      | blocked => exact ⟨_, .writing holds, Nat.le_refl _⟩
      | failed => exact ⟨0, .stopped, Nat.zero_le _⟩
  | closing =>
      cases result with
      | blocked => exact ⟨0, .closing, Nat.le_refl _⟩
      | done | failed => exact ⟨0, .stopped, Nat.le_refl _⟩

theorem next?
    (closes : ClosesWithin outbox .waiting count) :
    ∃ item rest, outbox.next? = some (item, rest) := by
  cases closes with
  | waiting holds => exact Outbox.next?_of_holdsClosing holds

/-- Where no more items are taken, the writer writes the closing or has stopped. -/
theorem of_zero
    (closes : ClosesWithin outbox writer count)
    (nothing : count = 0) :
    writer = .writing .close ∨ writer = .stopped := by
  have positive := outbox.one_le_distance
  cases closes with
  | waiting | writing =>
      rw [nothing] at positive
      cases positive
  | closing => exact .inl rfl
  | stopped => exact .inr rfl

/-- A closing that is on its way stays so, and comes nearer by what the writer takes. -/
theorem step
    (closes : ClosesWithin channel.outbox channel.writer count)
    {act : ChannelAct}
    (stepped : channel.step? act = some after) :
    ∃ fewer,
      ClosesWithin after.outbox after.writer fewer ∧
        [act].count .take + fewer ≤ count := by
  have kept
      (nearer : ∃ fewer, ClosesWithin after.outbox after.writer fewer ∧ fewer ≤ count)
      (other : act ≠ .take) :
      ∃ fewer,
        ClosesWithin after.outbox after.writer fewer ∧
          [act].count .take + fewer ≤ count := by
    rw [List.count_eq_zero.mpr (by simpa using Ne.symm other)]
    simpa using nearer
  cases moved_of_step? stepped with
  | accepted held accepts | closedBehind held accepts =>
      exact kept (closes.sent fun holds =>
        ⟨Outbox.holdsClosing_push holds _, Nat.le_of_eq (Outbox.distance_push holds _)⟩)
        (by simp)
  | closedAhead held receiving full =>
      exact kept (closes.sent fun _ => ⟨.inr rfl, channel.outbox.one_le_distance⟩) (by simp)
  | refused held | closedLate held | released held =>
      exact kept (closes.sent fun holds => ⟨holds, Nat.le_refl _⟩) (by simp)
  | took waiting taken =>
      rw [waiting] at closes
      exact closes.took taken
  | exhausted waiting nothing =>
      rw [waiting] at closes
      obtain ⟨item, rest, taken⟩ := closes.next?
      rw [taken] at nothing
      cases nothing
  | wrote writing =>
      rw [writing] at closes
      exact kept (closes.wrote _) (by simp)
  | left stopped =>
      refine kept ⟨0, ?_, Nat.zero_le _⟩ (by simp)
      change ClosesWithin _ channel.writer 0
      rw [stopped]
      exact .stopped

/-- In a run the writer takes no more items than there were until the closing. -/
theorem run
    (closes : ClosesWithin channel.outbox channel.writer count)
    {acts : List ChannelAct}
    {later : Channel}
    (ran : Runs channel acts later) :
    ∃ fewer,
      ClosesWithin later.outbox later.writer fewer ∧
        acts.count .take + fewer ≤ count := by
  induction ran with
  | nil =>
      exact ⟨count, closes, Nat.le_of_eq (Nat.zero_add _)⟩
  | snoc ran stepped inductionHypothesis =>
      obtain ⟨before, closesBefore, soFar⟩ := inductionHypothesis
      obtain ⟨fewer, closesAfter, nearer⟩ := closesBefore.step stepped
      refine ⟨fewer, closesAfter, ?_⟩
      rw [List.count_append, Nat.add_assoc]
      exact Nat.le_trans (Nat.add_le_add_left nearer _) soFar

end ClosesWithin

/-- When a connection is closed whose writer has not stopped, the closing is on its way, with
fewer items before it than a queue holds. -/
theorem closesWithin_of_close
    (course : Course channel texts channel.writer)
    (running : channel.writer ≠ .stopped)
    (stepped : channel.step? .close = some after) :
    ∃ count, ClosesWithin after.outbox after.writer count ∧ count ≤ Outbox.capacity := by
  simp only [step?, Option.ite_none_right_eq_some, Option.some.injEq] at stepped
  obtain ⟨-, rfl⟩ := stepped
  change ∃ count, ClosesWithin channel.outbox.close channel.writer count ∧ _
  generalize channel.writer = writer at course running ⊢
  cases course with
  | waiting receiving =>
      obtain ⟨holds, near⟩ := Outbox.distance_close receiving
      exact ⟨_, .waiting holds, near⟩
  | writing receiving =>
      obtain ⟨holds, near⟩ := Outbox.distance_close receiving
      exact ⟨_, .writing holds, near⟩
  | closing =>
      exact ⟨0, .closing, Nat.zero_le _⟩
  | closed | failed | exhausted =>
      exact (running rfl).elim

/-! ## The writer's promises -/

theorem written_of_stopped
    (stopped : channel.writer = .stopped)
    {acts : List ChannelAct}
    {later : Channel}
    (ran : Runs channel acts later) :
    later.writer = .stopped ∧ later.written = channel.written := by
  induction ran with
  | nil =>
      exact ⟨stopped, rfl⟩
  | @snoc acts act middle after ran stepped inductionHypothesis =>
      obtain ⟨stillStopped, same⟩ := inductionHypothesis
      cases moved_of_step? stepped with
      | took busy | exhausted busy | wrote busy =>
          rw [stillStopped] at busy
          cases busy
      | accepted | refused | closedBehind | closedAhead | closedLate | released | left =>
          exact ⟨stillStopped, (middle.written_kept rfl rfl).trans same⟩

theorem filterMap_map_text
    (texts : List String) :
    (texts.map Outgoing.text).filterMap Outgoing.text? = texts := by
  rw [List.filterMap_map]
  exact List.filterMap_some

/-- What comes before the first closing is determined by the items. -/
theorem map_text_inj
    {first second : List String}
    {firstRest secondRest : List Outgoing}
    (same :
      first.map .text ++ Outgoing.close :: firstRest =
        second.map .text ++ Outgoing.close :: secondRest) :
    first = second := by
  induction first generalizing second with
  | nil =>
      cases second with
      | nil => rfl
      | cons text rest => cases same
  | cons text rest inductionHypothesis =>
      cases second with
      | nil => cases same
      | cons other more =>
          simp only [List.map_cons, List.cons_append, List.cons.injEq,
            Outgoing.text.injEq] at same
          rw [same.1, inductionHypothesis same.2]

theorem Course.ordered
    {writer : Writer}
    (course : Course channel texts writer) :
    texts <+: channel.accepted := by
  have inQueue : texts.map .text <+: channel.queued := by
    cases course with
    | waiting _ _ queued | writing _ _ queued => exact ⟨_, queued.symm⟩
    | closing _ cut | closed _ cut => exact cut.ordered
    | failed _ _ ordered => exact ordered
    | exhausted _ _ _ queued => exact ⟨[], by rw [queued, List.append_nil]⟩
  rw [← filterMap_map_text texts]
  exact inQueue.filterMap _

/-- Texts are written in the order in which they were accepted, and a closing behind them. -/
theorem Course.written_shape
    {writer : Writer}
    (course : Course channel texts writer) :
    channel.written = texts.map .text ∨
      writer = .stopped ∧
        channel.written = texts.map .text ++ [.close (some .normal)] := by
  cases course with
  | waiting _ written | writing _ written | closing written | failed _ written
  | exhausted _ _ written =>
      exact .inl written
  | closed written =>
      exact .inr ⟨rfl, written⟩

theorem nothing_after_closing
    (course : Course channel texts channel.writer)
    (closingWritten : .close (some .normal) ∈ channel.written)
    {acts : List ChannelAct}
    {later : Channel}
    (ran : Runs channel acts later) :
    later.written = channel.written := by
  rcases course.written_shape with shape | ⟨stopped, -⟩
  · rw [shape] at closingWritten
    obtain ⟨text, -, isText⟩ := List.mem_map.mp closingWritten
    cases isText
  · exact (written_of_stopped stopped ran).2

/-- Where nothing was overtaken and nothing failed, a closed connection got what was accepted
before it was closed. -/
theorem written_of_wasClosed
    (reachable : Reachable channel)
    (wasClosed : channel.WasClosed)
    (notOvertaken : ¬channel.WasOvertaken)
    (unfailing : ¬channel.HasFailed)
    (stopped : channel.writer = .stopped) :
    channel.written = channel.acceptedBeforeClosing.map .text ++ [.close (some .normal)] := by
  obtain ⟨texts, course⟩ := Course.of_reachable reachable
  obtain ⟨later, before⟩ :=
    (queued_of_wasClosed reachable wasClosed).resolve_right fun lost =>
      lost.elim notOvertaken unfailing
  rw [stopped] at course
  cases course with
  | closed written cut =>
      obtain ⟨rest, shape⟩ := cut.resolve_right fun lost => notOvertaken lost.1
      rw [written, map_text_inj (shape.symm.trans before)]
  | failed failure =>
      exact (unfailing failure).elim
  | exhausted _ _ _ queued =>
      have closing : .close ∈ channel.queued := by simp [before]
      rw [queued] at closing
      obtain ⟨text, -, isText⟩ := List.mem_map.mp closing
      cases isText

/-- A writer that was neither closed nor failed has stopped for want of anything to come. -/
theorem exhausted_of_stopped
    (course : Course channel texts .stopped)
    (unclosed : ¬channel.WasClosed)
    (unfailing : ¬channel.HasFailed) :
    channel.held = false ∧
      channel.outbox.items = [] ∧
      channel.written = channel.accepted.map .text := by
  cases course with
  | closed _ cut =>
      exact (unclosed cut.wasClosed).elim
  | failed failure =>
      exact (unfailing failure).elim
  | exhausted unheld empty written queued =>
      refine ⟨unheld, empty, ?_⟩
      rw [written, accepted, queued, filterMap_map_text]

/--
What is written is a beginning of what was accepted, in the order in which it was accepted, and
one closing after it at most; behind that nothing is written.  Where no closing found the queue
full and no write failed, a writer that has stopped after a closing has written what was
accepted before the first of them.  A closing makes a writer stop that has not stopped, before
it has taken more items than a queue holds, whatever is sent meanwhile.  Where there was
neither a closing nor a failure, a writer has stopped only if nobody may send and everything
is written.
-/
theorem writer_keeps_order_and_stops
    (reachable : Reachable channel) :
    ((∃ texts closing,
          channel.written = texts.map .text ++ closing ∧
            texts <+: channel.accepted ∧
            (closing = [] ∨ closing = [.close (some ⟨1000, ""⟩)])) ∧
        (.close (some ⟨1000, ""⟩) ∈ channel.written →
          ∀ acts later, Runs channel acts later → later.written = channel.written)) ∧
      (channel.WasClosed →
        ¬channel.WasOvertaken →
        ¬channel.HasFailed →
        channel.writer = .stopped →
        channel.written =
          channel.acceptedBeforeClosing.map .text ++ [.close (some ⟨1000, ""⟩)]) ∧
      (∀ closed,
        channel.writer ≠ .stopped →
        channel.step? .close = some closed →
        ∀ acts later,
          Runs closed acts later →
          acts.count .take ≤ 256 ∧
            (acts.count .take = 256 →
              later.writer = .writing .close ∨ later.writer = .stopped) ∧
            (later.writer = .waiting → ∃ next, later.step? .take = some next)) ∧
      (¬channel.WasClosed →
        ¬channel.HasFailed →
        channel.writer = .stopped →
        channel.held = false ∧
          channel.outbox.items = [] ∧
          channel.written = channel.accepted.map .text) := by
  obtain ⟨texts, course⟩ := Course.of_reachable reachable
  refine ⟨⟨?_, fun closingWritten acts later ran =>
    nothing_after_closing course closingWritten ran⟩, written_of_wasClosed reachable, ?_,
    fun unclosed unfailing stopped =>
      exhausted_of_stopped (stopped ▸ course) unclosed unfailing⟩
  · rcases course.written_shape with shape | ⟨-, shape⟩
    · exact ⟨texts, [], by rw [shape, List.append_nil], course.ordered, .inl rfl⟩
    · exact ⟨texts, _, shape, course.ordered, .inr rfl⟩
  · intro closed running stepped acts later ran
    obtain ⟨count, closes, near⟩ := closesWithin_of_close course running stepped
    obtain ⟨fewer, closesLater, nearer⟩ := closes.run ran
    have limit := Nat.le_trans nearer near
    refine ⟨Nat.le_trans (Nat.le_add_right _ _) limit, fun all => ?_, fun waiting => ?_⟩
    · rw [all] at limit
      exact closesLater.of_zero (Nat.le_zero.mp (Nat.le_of_add_le_add_left limit))
    · rw [waiting] at closesLater
      obtain ⟨item, rest, taken⟩ := closesLater.next?
      simp [step?, waiting, take?, taken]

/-- A text that is sent when the connection was closed is accepted, and not written. -/
theorem writer_keeps_order_and_stops_of_late_text :
    ∃ channel,
      Runs start [.send "a", .close, .take, .write .done, .send "b", .take, .write .done]
          channel ∧
        channel.accepted = ["a", "b"] ∧
        channel.writer = .stopped ∧
        channel.written = [.text "a", .close (some ⟨1000, ""⟩)] := by
  have ran := @Runs.snoc start _ (.send "a") _ _ .nil rfl
  have ran := @Runs.snoc start _ .close _ _ ran rfl
  have ran := @Runs.snoc start _ .take _ _ ran rfl
  have ran := @Runs.snoc start _ (.write .done) _ _ ran rfl
  have ran := @Runs.snoc start _ (.send "b") _ _ ran rfl
  have ran := @Runs.snoc start _ .take _ _ ran rfl
  have ran := @Runs.snoc start _ (.write .done) _ _ ran rfl
  obtain ⟨-, inOrder, -⟩ := writer_keeps_order_and_stops ⟨_, ran⟩
  refine ⟨_, ran, rfl, rfl, inOrder ⟨none, ?_⟩ ?_ ?_ rfl⟩
  · exact List.mem_of_elem_eq_true rfl
  · exact fun overtaken => by cases List.elem_eq_true_of_mem overtaken
  · rintro ⟨item, failed⟩
    change .wrote item .failed ∈
      [ChannelEvent.sent "a" none, .closed none, .taken (some (.text "a")),
        .wrote (.text "a") .done, .sent "b" none, .taken (some .close),
        .wrote .close .done] at failed
    simp at failed

end Channel

end SignalRelay
