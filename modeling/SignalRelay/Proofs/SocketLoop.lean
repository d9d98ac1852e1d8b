import SignalRelay.Proofs.Generations
import SignalRelay.Proofs.Stopping

namespace SignalRelay

/-!
# How a socket is read

A client reads a socket until the first thing that makes it give the socket up.  Every text before
that becomes one event, whether it is a message or not, and everything else is passed over.  Then
the socket is let go of, which concerns the sign of life and the socket that is up only if that is
still the one that was read, and its end is told, with the reason.

Meanwhile others call the client.  All that they do leaves the reading alone, unless a closing has
waited long enough and stops it (`PeerRun.reader?_of_step?`).
-/

namespace SocketYield

/-- The text that a socket gives, if it gives one. -/
def text? : SocketYield → Option String
  | some (.ok (.text raw)) => some raw
  | _ => none

/-- Whether a socket fails in a way that may leave the connection as it is. -/
def isFailure : SocketYield → Bool
  | some (.error (.other _)) => true
  | _ => false

/-- Why a socket is given up at the last thing that it gives. -/
inductive GivenUp (before : List SocketYield) : SocketYield → DisconnectReason → Prop where
  | closed
      (notice? : Option CloseNotice) :
      GivenUp before (some (.ok (.close notice?))) (.closed (notice?.map (·.code)))
  | connectionClosed :
      GivenUp before (some (.error .connectionClosed)) .reset
  | alreadyClosed :
      GivenUp before (some (.error .alreadyClosed)) .reset
  | resetWithoutClosing :
      GivenUp before (some (.error .resetWithoutClosing)) .reset
  | transport
      (report : String) :
      GivenUp before (some (.error (.transport report))) .reset
  | ended :
      GivenUp before none .ended
  | failed
      {report : String}
      (inARow : FailInARow isFailure 8 (before ++ [some (.error (.other report))])) :
      GivenUp before (some (.error (.other report))) (.failed report)

/-- A socket is given up at the last thing that it gives. -/
def Stops (before : List SocketYield) (last : SocketYield) : Prop :=
  ∃ reason, GivenUp before last reason

variable {before : List SocketYield} {failures : Nat}

/-- A reader that has counted the failures gives a socket up just where it should, and for that
reason, and goes on counting otherwise. -/
theorem after_of_counted
    (counted : failures = failuresAtEnd isFailure before)
    (last : SocketYield) :
    (∃ reason,
        GivenUp before last reason ∧
          (SocketReading.ofYield last).after failures = .error reason) ∨
      (¬Stops before last ∧
        (SocketReading.ofYield last).after failures =
          .ok (failuresAtEnd isFailure (before ++ [last]))) := by
  rcases last with _ | fault | message
  · exact .inl ⟨_, .ended, rfl⟩
  · cases fault with
    | connectionClosed => exact .inl ⟨_, .connectionClosed, rfl⟩
    | alreadyClosed => exact .inl ⟨_, .alreadyClosed, rfl⟩
    | resetWithoutClosing => exact .inl ⟨_, .resetWithoutClosing, rfl⟩
    | transport report => exact .inl ⟨_, .transport report, rfl⟩
    | other report =>
        have inARow :
            FailInARow isFailure 8 (before ++ [some (.error (.other report))]) ↔
              true = true ∧ 7 ≤ failuresAtEnd isFailure before :=
          failInARow_concat_iff _
        by_cases more : failures + 1 < SocketReading.failureLimit
        · refine .inr ⟨?_, ?_⟩
          · rintro ⟨reason, givenUp⟩
            cases givenUp with
            | failed tooMany =>
                have enough := (inARow.mp tooMany).2
                rw [← counted] at enough
                exact Nat.not_lt.mpr enough (Nat.lt_of_succ_lt_succ more)
          · rw [failuresAtEnd_concat, ← counted]
            exact if_pos more
        · refine .inl ⟨_, .failed (inARow.mpr ⟨rfl, ?_⟩), if_neg more⟩
          rw [← counted]
          exact Nat.le_of_succ_le_succ (Nat.le_of_not_lt more)
  · cases message with
    | close notice? => exact .inl ⟨_, .closed notice?, rfl⟩
    | text | binary | ping | pong =>
        refine .inr ⟨?_, ?_⟩
        · rintro ⟨reason, ⟨⟩⟩
        · rw [failuresAtEnd_concat]
          rfl

end SocketYield

namespace PeerEvent

/-- The one event that a text becomes. -/
inductive TellsOf (raw : String) : PeerEvent → Prop where
  | message
      {message : Message}
      (read : Message.ofText raw = .ok message) :
      TellsOf raw (.message message)
  | malformed
      {fault : Fault}
      (refused : Message.ofText raw = .error fault) :
      TellsOf raw (.malformed raw (fault.report (Utf8.encode raw)))

theorem tellsOf_ofText
    (raw : String) :
    TellsOf raw (.ofText raw) := by
  unfold ofText
  split
  · next read => exact .message read
  · next refused => exact .malformed refused

end PeerEvent

/-- What a reading becomes is told of the text that was given, and otherwise there is nothing. -/
theorem SocketReading.event?_ofYield
    (yielded : SocketYield) :
    (SocketReading.ofYield yielded).event? = (SocketYield.text? yielded).map .ofText := by
  rcases yielded with _ | fault | message
  · rfl
  · cases fault <;> rfl
  · cases message <;> rfl

namespace Peer

variable {peer : Peer} {generation : Generation}

/-- The task that reads a socket. -/
def reader? (peer : Peer) (generation : Generation) : Option SocketReader :=
  peer.readers.find? (·.generation == generation)

/-! ## Reading while others go on -/

/-- Read a socket while others go on. -/
def readAmid (peer : Peer) (generation : Generation) :
    List (Arrival Peer SocketYield) → Peer × List PeerEvent
  | [] => (peer, [])
  | arrival :: later =>
      let (read, events) :=
        (arrival.meanwhile peer).read generation (.ofYield arrival.reading)
      let (after, more) := read.readAmid generation later
      (after, events ++ more)

/-- Where nobody does anything between the readings, a socket is read as it is read alone. -/
theorem readAmid_undisturbed
    (peer : Peer)
    (generation : Generation)
    (yields : List SocketYield) :
    peer.readAmid generation (yields.map .undisturbed) =
      peer.readThrough generation (yields.map .ofYield) := by
  induction yields generalizing peer with
  | nil => rfl
  | cons yielded later inductionHypothesis =>
      simp only [List.map_cons, readAmid, readThrough, Arrival.undisturbed, id_eq,
        inductionHypothesis]

/-- Whatever is done, a socket that was there is not dialed again, and its reader is left alone. -/
def LeavesReader (generation : Generation) (meanwhile : Peer → Peer) : Prop :=
  ∀ peer : Peer,
    generation ≤ peer.generations →
    generation ≤ (meanwhile peer).generations ∧
      (meanwhile peer).reader? generation = peer.reader? generation

theorem leavesReader_id
    (generation : Generation) :
    LeavesReader generation id :=
  fun _ known => ⟨known, rfl⟩

/-! ## One reading -/

theorem reader?_keepReading
    (peer : Peer)
    (generation other : Generation)
    (failures : Nat) :
    (peer.keepReading other failures).reader? generation =
      (peer.reader? generation).map fun reader =>
        if reader.generation = other then { reader with failures } else reader := by
  rw [reader?, keepReading, List.find?_map, reader?]
  congr 2
  funext reader
  dsimp only [Function.comp]
  split <;> rfl

theorem reader?_stopReader
    (peer : Peer)
    (generation : Generation) :
    (peer.stopReader generation).reader? generation = none := by
  refine List.find?_eq_none.mpr ?_
  intro reader member
  simpa using (List.mem_filter.mp member).2

/-- A reader that has counted the failures goes on, or stops for a reason and lets go of the
socket. -/
theorem read_of_counted
    {before : List SocketYield}
    (isRead :
      peer.reader? generation =
        some ⟨generation, failuresAtEnd SocketYield.isFailure before⟩)
    (last : SocketYield) :
    (∃ reason,
        SocketYield.GivenUp before last reason ∧
          peer.read generation (.ofYield last) =
            ((peer.stopReader generation).release generation, [.disconnected reason])) ∨
      (¬SocketYield.Stops before last ∧
        peer.read generation (.ofYield last) =
          (peer.keepReading generation
              (failuresAtEnd SocketYield.isFailure (before ++ [last])),
            ((SocketYield.text? last).map PeerEvent.ofText).toList)) := by
  unfold reader? at isRead
  simp only [read, isRead, SocketReading.event?_ofYield]
  rcases SocketYield.after_of_counted rfl last with ⟨reason, givenUp, stopped⟩ | ⟨passes, goesOn⟩
  · exact .inl ⟨reason, givenUp, by rw [stopped]⟩
  · exact .inr ⟨passes, by rw [goesOn]⟩

/-- A socket that is read no longer is down afterwards.  Its sign of life is stopped if it was
up, and nothing else of the client changes. -/
theorem release_stopReader
    (peer : Peer)
    (generation : Generation) :
    (peer.stopReader generation).release generation =
      { peer with
        readers := peer.readers.filter (·.generation != generation)
        link := if peer.link = some generation then none else peer.link
        heartbeats :=
          if peer.link = some generation then
            peer.heartbeats.filter (·.generation != generation)
          else
            peer.heartbeats } := by
  by_cases up : peer.link = some generation
  · simp [release, stopReader, stopHeartbeat, up]
  · simp [release, stopReader, up]

/-! ## All readings -/

/-- What others do one after another. -/
def meanwhileAll (peer : Peer) (arrivals : List (Arrival Peer SocketYield)) : Peer :=
  arrivals.foldl (fun peer arrival => arrival.meanwhile peer) peer

variable {arrivals : List (Arrival Peer SocketYield)}

/-- A socket that is read no longer stays so, and nothing more is told of it. -/
theorem readAmid_of_unread
    (known : generation ≤ peer.generations)
    (unread : peer.reader? generation = none)
    (leaves : ∀ arrival ∈ arrivals, LeavesReader generation arrival.meanwhile) :
    peer.readAmid generation arrivals = (peer.meanwhileAll arrivals, []) ∧
      (peer.meanwhileAll arrivals).reader? generation = none := by
  induction arrivals generalizing peer with
  | nil => exact ⟨rfl, unread⟩
  | cons arrival later inductionHypothesis =>
      obtain ⟨leavesHere, leavesLater⟩ := List.forall_mem_cons.mp leaves
      obtain ⟨knownStill, sameReader⟩ := leavesHere peer known
      have unreadStill := sameReader.trans unread
      have nothing :
          (arrival.meanwhile peer).read generation (.ofYield arrival.reading) =
            (arrival.meanwhile peer, []) := by
        unfold reader? at unreadStill
        simp only [read, unreadStill]
      rw [readAmid, nothing]
      obtain ⟨same, unreadLater⟩ := inductionHypothesis knownStill unreadStill leavesLater
      dsimp only
      rw [same]
      exact ⟨rfl, unreadLater⟩

/-- After the reading at which a socket is given up, nothing more is told of it. -/
theorem readAmid_of_stopped
    {arrival : Arrival Peer SocketYield}
    {later : List (Arrival Peer SocketYield)}
    {reason : DisconnectReason}
    (known : generation ≤ (arrival.meanwhile peer).generations)
    (stopped :
      (arrival.meanwhile peer).read generation (.ofYield arrival.reading) =
        (((arrival.meanwhile peer).stopReader generation).release generation,
          [.disconnected reason]))
    (leaves : ∀ arrival ∈ later, LeavesReader generation arrival.meanwhile) :
    let down := ((arrival.meanwhile peer).stopReader generation).release generation
    peer.readAmid generation (arrival :: later) =
        (down.meanwhileAll later, [.disconnected reason]) ∧
      (down.meanwhileAll later).reader? generation = none := by
  intro down
  have released : down = _ := release_stopReader (arrival.meanwhile peer) generation
  have knownDown : generation ≤ down.generations := by
    rw [released]
    exact known
  have unread : down.reader? generation = none := by
    rw [released]
    exact reader?_stopReader (arrival.meanwhile peer) generation
  obtain ⟨silent, unreadLater⟩ := readAmid_of_unread knownDown unread leaves
  rw [readAmid, stopped]
  dsimp only
  rw [silent]
  exact ⟨rfl, unreadLater⟩

/-- A reader that goes on tells of the text that it has read, if it has read one. -/
theorem readAmid_of_goesOn
    {arrival : Arrival Peer SocketYield}
    {failures : Nat}
    (goesOn :
      (arrival.meanwhile peer).read generation (.ofYield arrival.reading) =
        ((arrival.meanwhile peer).keepReading generation failures,
          ((SocketYield.text? arrival.reading).map PeerEvent.ofText).toList))
    (later : List (Arrival Peer SocketYield)) :
    peer.readAmid generation (arrival :: later) =
      let rest :=
        ((arrival.meanwhile peer).keepReading generation failures).readAmid generation later
      (rest.1, ((SocketYield.text? arrival.reading).map PeerEvent.ofText).toList ++ rest.2) := by
  rw [readAmid, goesOn]

/-- A reader that has counted the failures either reads everything, or reads up to the first place
where the socket is given up. -/
theorem readAmid_goes_on_or_ends
    {before : List SocketYield}
    (known : generation ≤ peer.generations)
    (isRead :
      peer.reader? generation =
        some ⟨generation, failuresAtEnd SocketYield.isFailure before⟩)
    (leaves : ∀ arrival ∈ arrivals, LeavesReader generation arrival.meanwhile) :
    let run := peer.readAmid generation arrivals
    (NeverStops (Behind SocketYield.Stops before) (arrivals.map (·.reading)) ∧
        (run.1.reader? generation).isSome = true ∧
        run.2 = ((arrivals.map (·.reading)).filterMap SocketYield.text?).map .ofText) ∨
      ∃ between stop later reason,
        arrivals = between ++ stop :: later ∧
          StopsFirst (Behind SocketYield.Stops before) (between.map (·.reading))
            stop.reading ∧
          SocketYield.GivenUp (before ++ between.map (·.reading)) stop.reading reason ∧
          run.1.reader? generation = none ∧
          let found := stop.meanwhile (peer.readAmid generation between).1
          run.1 = ((found.stopReader generation).release generation).meanwhileAll later ∧
            run.2 =
              ((between.map (·.reading)).filterMap SocketYield.text?).map .ofText ++
                [.disconnected reason] := by
  induction arrivals generalizing peer before with
  | nil => exact .inl ⟨.nil, by simp [readAmid, isRead], rfl⟩
  | cons arrival later inductionHypothesis =>
      obtain ⟨leavesHere, leavesLater⟩ := List.forall_mem_cons.mp leaves
      obtain ⟨knownStill, sameReader⟩ := leavesHere peer known
      -- The reader's count is that of the failures read so far, whatever others did meanwhile.
      have readStill := sameReader.trans isRead
      rcases read_of_counted readStill arrival.reading with
        ⟨reason, givenUp, stopped⟩ | ⟨passes, goesOn⟩
      · obtain ⟨ran, unread⟩ := readAmid_of_stopped knownStill stopped leavesLater
        rw [ran]
        refine .inr ⟨[], arrival, later, reason, rfl, .nil ⟨reason, givenUp⟩, ?_, unread, rfl,
          rfl⟩
        rwa [List.map_nil, List.append_nil]
      · have texts (more : List SocketYield) :
            ((SocketYield.text? arrival.reading).map PeerEvent.ofText).toList ++
                (more.filterMap SocketYield.text?).map .ofText =
              ((arrival.reading :: more).filterMap SocketYield.text?).map .ofText := by
          rw [List.filterMap_cons]
          cases SocketYield.text? arrival.reading <;> rfl
        generalize counted :
          failuresAtEnd SocketYield.isFailure (before ++ [arrival.reading]) = failures at goesOn
        have nextRead :
            ((arrival.meanwhile peer).keepReading generation failures).reader? generation =
              some ⟨generation,
                failuresAtEnd SocketYield.isFailure (before ++ [arrival.reading])⟩ := by
          rw [reader?_keepReading, readStill, counted]
          exact congrArg some (if_pos rfl)
        have knownNext :
            generation ≤
              ((arrival.meanwhile peer).keepReading generation failures).generations :=
          knownStill
        rw [readAmid_of_goesOn goesOn]
        rcases inductionHypothesis knownNext nextRead leavesLater with
          ⟨never, still, told⟩ |
            ⟨between, stop, rest, reason, whole, stopsFirst, givenUp, unread, after, told⟩
        · refine .inl ⟨.cons passes never, still, ?_⟩
          dsimp only
          rw [told]
          exact texts _
        · refine .inr ⟨arrival :: between, stop, rest, reason, congrArg (arrival :: ·) whole,
            .cons passes stopsFirst, by simpa using givenUp, unread, ?_⟩
          rw [readAmid_of_goesOn goesOn]
          refine ⟨after, ?_⟩
          dsimp only
          rw [told, ← List.append_assoc]
          exact congrArg (· ++ _) (texts _)

/--
A socket is read until the first thing that makes a client give it up: a closing, a torn
connection, the end, or the eighth in a row of other failures.  Every text before that becomes one
event, in order: the message that it is, or the report that it is none, with the text as it came.
Nothing else is told but, at last, the end of the socket, once, with the reason for which that
place gave it up.  The socket is then read no longer; the client is down, and its sign of life is
stopped, just if this socket was the one that was up.  What the client is like by then, and what
becomes of it later, is up to the others.
-/
theorem socket_read_until_first_stop
    (known : generation ≤ peer.generations)
    (isRead : peer.reader? generation = some ⟨generation, 0⟩)
    (leaves : ∀ arrival ∈ arrivals, LeavesReader generation arrival.meanwhile) :
    let run := peer.readAmid generation arrivals
    (NeverStops SocketYield.Stops (arrivals.map (·.reading)) ∧
        (run.1.reader? generation).isSome = true ∧
        List.Forall₂ PeerEvent.TellsOf
          ((arrivals.map (·.reading)).filterMap SocketYield.text?) run.2) ∨
      ∃ before stop later reason told,
        arrivals = before ++ stop :: later ∧
          StopsFirst SocketYield.Stops (before.map (·.reading)) stop.reading ∧
          SocketYield.GivenUp (before.map (·.reading)) stop.reading reason ∧
          run.2 = told ++ [.disconnected reason] ∧
          List.Forall₂ PeerEvent.TellsOf
            ((before.map (·.reading)).filterMap SocketYield.text?) told ∧
          run.1.reader? generation = none ∧
          let found := stop.meanwhile (peer.readAmid generation before).1
          run.1 =
            Peer.meanwhileAll
              { found with
                readers := found.readers.filter (·.generation != generation)
                link := if found.link = some generation then none else found.link
                heartbeats :=
                  if found.link = some generation then
                    found.heartbeats.filter (·.generation != generation)
                  else
                    found.heartbeats }
              later := by
  have tells (texts : List String) :
      List.Forall₂ PeerEvent.TellsOf texts (texts.map .ofText) :=
    List.forall₂_map_right_iff.mpr
      (List.forall₂_same.mpr fun raw _ => PeerEvent.tellsOf_ofText raw)
  have counted :
      peer.reader? generation =
        some ⟨generation, failuresAtEnd SocketYield.isFailure []⟩ :=
    isRead
  rcases readAmid_goes_on_or_ends known counted leaves with
    ⟨never, still, told⟩ |
      ⟨before, stop, later, reason, whole, first, givenUp, unread, after, told⟩
  · left
    rw [told]
    exact ⟨never, still, tells _⟩
  · right
    rw [release_stopReader] at after
    exact ⟨before, stop, later, reason, _, whole, first, givenUp, told, tells _, unread, after⟩

/-! ## What others do -/

theorem reader?_stopReader_other
    {other : Generation}
    (different : other ≠ generation)
    (peer : Peer) :
    (peer.stopReader other).reader? generation = peer.reader? generation := by
  rw [reader?, stopReader, List.find?_filter, reader?]
  congr 1
  funext reader
  by_cases own : reader.generation = generation
  · simp [own, different.symm]
  · simp [own]

theorem reader?_keepReading_other
    {other : Generation}
    (different : other ≠ generation)
    (peer : Peer)
    (failures : Nat) :
    (peer.keepReading other failures).reader? generation = peer.reader? generation := by
  rw [reader?_keepReading]
  cases found : peer.reader? generation with
  | none => rfl
  | some reader =>
      have own : reader.generation = generation := by simpa using List.find?_some found
      rw [Option.map_some, if_neg (own ▸ different.symm)]

theorem reader?_connect
    (known : generation ≤ peer.generations) :
    peer.connect.reader? generation = peer.reader? generation := by
  have another : peer.generations + 1 ≠ generation := Nat.ne_of_gt (Nat.lt_succ_of_le known)
  simp [reader?, connect, List.find?_append, another]

end Peer

namespace PeerRun

/-- Whatever is done to a client, the reader of a socket is left alone, unless that socket gives
something or has been waited for by the closing of it. -/
theorem reader?_of_step?
    {names : NameMapping}
    {run after : PeerRun}
    {act : PeerAct}
    {generation : Generation}
    (stepped : run.step? names act = some after)
    (known : generation ≤ run.peer.generations)
    (notRead : ∀ reading, act ≠ .read generation reading)
    (notDrained : act = .drained → run.peer.call ≠ some (.closing generation)) :
    generation ≤ after.peer.generations ∧
      after.peer.reader? generation = run.peer.reader? generation := by
  obtain ⟨happening, -, moved⟩ := moved_of_step? stepped
  generalize after.peer = peer at moved ⊢
  cases moved with
  | connected => exact ⟨Nat.le_succ_of_le known, Peer.reader?_connect known⟩
  | @drained other closing =>
      have different : other ≠ generation := by
        rintro rfl
        exact notDrained rfl closing
      exact ⟨known, Peer.reader?_stopReader_other different run.peer⟩
  | @wentOn other =>
      have different : other ≠ generation := by
        rintro rfl
        exact notRead _ rfl
      exact ⟨known, Peer.reader?_keepReading_other different run.peer _⟩
  | @endedUp other | @endedDown other =>
      have different : other ≠ generation := by
        rintro rfl
        exact notRead _ rfl
      exact ⟨known, Peer.reader?_stopReader_other different run.peer⟩
  | _ => exact ⟨known, rfl⟩

end PeerRun

namespace Peer

/-- What acts that follow one another make of a client, if they can be done. -/
def amid (names : NameMapping) (acts : List PeerAct) (peer : Peer) : Peer :=
  ((PeerRun.run? names ⟨peer, []⟩ acts).map (·.peer)).getD peer

/-- Acts that neither read a socket nor end a closing leave its reader alone. -/
theorem leavesReader_amid
    {names : NameMapping}
    {generation : Generation}
    {acts : List PeerAct}
    (notRead : ∀ reading, .read generation reading ∉ acts)
    (notDrained : .drained ∉ acts) :
    LeavesReader generation (amid names acts) := by
  have carried :
      ∀ run : PeerRun,
        generation ≤ run.peer.generations →
        ∀ after,
          run.run? names acts = some after →
          generation ≤ after.peer.generations ∧
            after.peer.reader? generation = run.peer.reader? generation := by
    induction acts with
    | nil =>
        intro run known after ended
        cases ended
        exact ⟨known, rfl⟩
    | cons act rest inductionHypothesis =>
        intro run known after ended
        simp only [PeerRun.run?] at ended
        split at ended
        · cases ended
        · next middle stepped =>
            obtain ⟨knownStill, same⟩ := PeerRun.reader?_of_step? stepped known
              (fun reading isRead => notRead reading (isRead ▸ List.mem_cons_self))
              (fun isDrained => (notDrained (isDrained ▸ List.mem_cons_self)).elim)
            rw [← same]
            exact inductionHypothesis
              (fun reading member => notRead reading (List.mem_cons_of_mem _ member))
              (fun member => notDrained (List.mem_cons_of_mem _ member))
              middle knownStill after ended
  intro peer known
  unfold amid
  cases ran : PeerRun.run? names ⟨peer, []⟩ acts with
  | none => exact ⟨known, rfl⟩
  | some after => exact carried ⟨peer, []⟩ known after ran

/-- A client whose first socket is up. -/
def firstUp : Peer :=
  (ofOptions {}).connect

/-- A text that is no message, seven failures, a pong, and another seven failures, before which
the client gives a closing up and starts once more; then the relay closes the first socket. -/
def restarted : List (Arrival Peer SocketYield) :=
  .undisturbed (some (.ok (.text "\x7b"))) ::
    (List.replicate 7 (.undisturbed (some (.error (.other "x")))) ++
      .undisturbed (some (.ok (.pong []))) ::
        ⟨amid (fun _ => none) [.close, .giveUp, .start "a" "t", .dialed (.ok ())],
          some (.error (.other "x"))⟩ ::
          (List.replicate 6 (.undisturbed (some (.error (.other "x")))) ++
            [.undisturbed (some (.ok (.close (some ⟨1001, ""⟩)))), .undisturbed none]))

/-- The end of a first socket that was left is told with the code of the relay, and what comes
later is not read.  The second one stays up with its sign of life. -/
theorem socket_read_until_first_stop_of_restarted :
    1 ≤ firstUp.generations ∧
      firstUp.reader? 1 = some ⟨1, 0⟩ ∧
      (∀ arrival ∈ restarted, LeavesReader 1 arrival.meanwhile) ∧
      ∃ before stop later told,
        restarted = before ++ stop :: later ∧
          StopsFirst SocketYield.Stops (before.map (·.reading)) stop.reading ∧
          SocketYield.GivenUp (before.map (·.reading)) stop.reading (.closed (some 1001)) ∧
          (firstUp.readAmid 1 restarted).2 =
            [told, .disconnected (.closed (some 1001))] ∧
          (firstUp.readAmid 1 restarted).1.link = some 2 ∧
          (firstUp.readAmid 1 restarted).1.heartbeats.map (·.generation) = [2] := by
  have known : 1 ≤ firstUp.generations := Nat.le_refl 1
  have isRead : firstUp.reader? 1 = some ⟨1, 0⟩ := rfl
  have leaves : ∀ arrival ∈ restarted, LeavesReader 1 arrival.meanwhile := by
    intro arrival member
    simp only [restarted, List.mem_cons, List.mem_append, List.mem_replicate,
      List.not_mem_nil, or_false] at member
    rcases member with rfl | ⟨-, rfl⟩ | rfl | rfl | ⟨-, rfl⟩ | rfl | rfl
    · exact leavesReader_id 1
    · exact leavesReader_id 1
    · exact leavesReader_id 1
    · exact leavesReader_amid (by simp) (by simp)
    · exact leavesReader_id 1
    · exact leavesReader_id 1
    · exact leavesReader_id 1
  have computed :
      (firstUp.readAmid 1 restarted).1.reader? 1 = none ∧
        (firstUp.readAmid 1 restarted).1.link = some 2 ∧
        (firstUp.readAmid 1 restarted).1.heartbeats.map (·.generation) = [2] := by
    decide +kernel
  obtain ⟨told, events⟩ :
      ∃ told, (firstUp.readAmid 1 restarted).2 =
        [told, .disconnected (.closed (some 1001))] :=
    ⟨_, rfl⟩
  refine ⟨known, isRead, leaves, ?_⟩
  obtain ⟨unread, up, alive⟩ := computed
  rcases socket_read_until_first_stop known isRead leaves with
    ⟨-, still, -⟩ | ⟨before, stop, later, reason, _, whole, first, givenUp, ended, -⟩
  · rw [unread] at still
    cases still
  · have last := congrArg List.getLast? (ended.symm.trans events)
    rw [List.getLast?_concat] at last
    cases last
    exact ⟨before, stop, later, told, whole, first, givenUp, events, up, alive⟩

end Peer

end SignalRelay
