import SignalRelay.Client.Peer
import Mathlib.Data.List.Nodup
import Mathlib.Data.List.Range

namespace SignalRelay

/-!
# One socket at a time

A client is shared by all who hold it.  Calls to start and to close take turns: one that finds
another under way waits, and waiting changes nothing.  Sending, the passing of time and the
sockets that are read take no turns and may come between any two steps of a call.

A run of a client keeps what has happened, whatever ASCII forms names beyond ASCII have.
`Peer.Moved` says everything that one act can do, and `PeerRun.Tidy` what all of them keep:
there is one sign of life, for the socket that is up, and a socket that is no longer read tells
of its end at most once.
-/

variable {names : NameMapping}

/-- What can be done to a client. -/
inductive PeerAct where
  /-- A call to start has its turn. -/
  | start : (id token : String) → PeerAct
  /-- The dialing of the start that is under way ends. -/
  | dialed : Except String Unit → PeerAct
  /-- A call to close has its turn. -/
  | close : PeerAct
  /-- The closing that is under way has waited for the relay. -/
  | drained : PeerAct
  /-- The call that is under way is given up, and leaves its socket being read. -/
  | giveUp : PeerAct
  /-- Somebody sends a text. -/
  | send : String → PeerAct
  /-- Milliseconds pass. -/
  | wait : Nat → PeerAct
  /-- A socket that is still read gives something. -/
  | read : Generation → SocketReading → PeerAct

/-- What has happened to a client. -/
inductive PeerHappening where
  | started : StartStep → PeerHappening
  /-- Dialing ended, and this socket was up afterwards. -/
  | dialed : Except String Unit → Option Generation → PeerHappening
  | closing : CloseStep → List Transmission → PeerHappening
  | drained : PeerHappening
  | gaveUp : PeerHappening
  | wrote : List Transmission → PeerHappening
  /-- A socket was read, and this was told of it. -/
  | read : Generation → List PeerEvent → PeerHappening

namespace PeerEvent

/-- Whether an event is the end of a socket. -/
def isEnd : PeerEvent → Bool
  | .disconnected _ => true
  | _ => false

end PeerEvent

namespace PeerAct

/-- Whether a dialing ends. -/
def isDialed : PeerAct → Bool
  | .dialed _ => true
  | _ => false

end PeerAct

namespace PeerHappening

/-- The socket that a dialing which succeeded put up. -/
def connected? : PeerHappening → Option Generation
  | .dialed (.ok ()) link => link
  | _ => none

/-- The sockets whose end was told of, once for each time. -/
def ends : PeerHappening → List Generation
  | .read generation events => (events.filter (·.isEnd)).map fun _ => generation
  | _ => []

end PeerHappening

/-- A client with what has happened to it in order. -/
structure PeerRun where
  peer : Peer
  history : List PeerHappening

namespace PeerRun

/-- A client that nothing has happened to. -/
def start (options : ClientOptions) : PeerRun :=
  ⟨.ofOptions options, []⟩

/-! ## What the history tells -/

/-- The sockets that were dialed with success. -/
def connected (run : PeerRun) : List Generation :=
  run.history.filterMap PeerHappening.connected?

/-- The sockets whose end was told of. -/
def ended (run : PeerRun) : List Generation :=
  run.history.flatMap PeerHappening.ends

/-! ## What is done to a client -/

/-- A client to which something has happened. -/
def advance (run : PeerRun) (peer : Peer) (happening : PeerHappening) : PeerRun :=
  ⟨peer, run.history ++ [happening]⟩

/-- Do one thing to a client, if it can be done. -/
def step? (names : NameMapping) (run : PeerRun) : PeerAct → Option PeerRun
  | .start id token =>
      match run.peer.beginStart names id token with
      | (_, .busy) => none
      | (peer, step) => some (run.advance peer (.started step))
  | .dialed result =>
      if run.peer.call = some .dialing then
        let peer := (run.peer.finishStart result).1
        some (run.advance peer (.dialed result peer.link))
      else
        none
  | .close =>
      match run.peer.beginClose with
      | (_, _, .busy) => none
      | (peer, written, step) => some (run.advance peer (.closing step written))
  | .drained =>
      match run.peer.call with
      | some (.closing _) => some (run.advance run.peer.finishClose .drained)
      | _ => none
  | .giveUp =>
      if run.peer.call.isSome then
        some (run.advance { run.peer with call := none } .gaveUp)
      else
        none
  | .send text => some (run.advance run.peer (.wrote (run.peer.send text)))
  | .wait milliseconds =>
      let (peer, written) := run.peer.advance milliseconds
      some (run.advance peer (.wrote written))
  | .read generation reading =>
      if run.peer.readers.any (·.generation == generation) then
        let (peer, events) := run.peer.read generation reading
        some (run.advance peer (.read generation events))
      else
        none

/-- Do one thing after another to a client. -/
def run? (names : NameMapping) : PeerRun → List PeerAct → Option PeerRun
  | run, [] => some run
  | run, act :: rest =>
      match run.step? names act with
      | none => none
      | some after => after.run? names rest

/-- What runs of a client with given options lead to. -/
def Reachable (names : NameMapping) (options : ClientOptions) (run : PeerRun) : Prop :=
  ∃ acts, (start options).run? names acts = some run

end PeerRun

namespace Peer

/-! ## What the operations do -/

/-- Everything that an act can do to a client, and what then has happened. -/
inductive Moved (names : NameMapping) (peer : Peer) :
    PeerAct → Peer → PeerHappening → Prop where
  | found
      {id token : String}
      (idle : peer.call = none)
      (up : peer.link.isSome = true) :
      Moved names peer (.start id token) peer (.started .alreadyConnected)
  | misdirected
      {id token : String}
      {error : UrlError}
      (idle : peer.call = none)
      (down : peer.link = none)
      (invalid : peer.options.socketUrl names id token = .error error) :
      Moved names peer (.start id token) peer (.started (.failed (.invalidUrl error)))
  | dialing
      {id token : String}
      {url : SocketUrl}
      (idle : peer.call = none)
      (down : peer.link = none)
      (valid : peer.options.socketUrl names id token = .ok url) :
      Moved names peer (.start id token) { peer with call := some .dialing }
        (.started (.dialing url))
  | connected
      (dialing : peer.call = some .dialing) :
      Moved names peer (.dialed (.ok ())) { peer with call := none }.connect
        (.dialed (.ok ()) (some (peer.generations + 1)))
  | unreached
      {report : String}
      (dialing : peer.call = some .dialing) :
      Moved names peer (.dialed (.error report)) { peer with call := none }
        (.dialed (.error report) peer.link)
  | unlinked
      (idle : peer.call = none)
      (down : peer.link = none) :
      Moved names peer .close peer (.closing .notConnected [])
  | closing
      {generation : Generation}
      (idle : peer.call = none)
      (up : peer.link = some generation) :
      Moved names peer .close
        { peer.stopHeartbeat generation with
          link := none
          call := some (.closing generation) }
        (.closing (.closing generation) [.close generation])
  | drained
      {generation : Generation}
      (closing : peer.call = some (.closing generation)) :
      Moved names peer .drained { peer.stopReader generation with call := none } .drained
  | gaveUp :
      Moved names peer .giveUp { peer with call := none } .gaveUp
  | sent
      {text : String} :
      Moved names peer (.send text) peer (.wrote (peer.send text))
  | waited
      {milliseconds : Nat} :
      Moved names peer (.wait milliseconds) (peer.advance milliseconds).1
        (.wrote (peer.advance milliseconds).2)
  | wentOn
      {generation : Generation}
      {reading : SocketReading}
      {failures : Nat}
      {events : List PeerEvent}
      (eventful : ∀ event ∈ events, event.isEnd = false) :
      Moved names peer (.read generation reading) (peer.keepReading generation failures)
        (.read generation events)
  | endedUp
      {generation : Generation}
      {reading : SocketReading}
      {reason : DisconnectReason}
      (wasRead : ∃ reader ∈ peer.readers, reader.generation = generation)
      (up : peer.link = some generation) :
      Moved names peer (.read generation reading)
        { (peer.stopReader generation).stopHeartbeat generation with link := none }
        (.read generation [.disconnected reason])
  | endedDown
      {generation : Generation}
      {reading : SocketReading}
      {reason : DisconnectReason}
      (wasRead : ∃ reader ∈ peer.readers, reader.generation = generation)
      (down : peer.link ≠ some generation) :
      Moved names peer (.read generation reading) (peer.stopReader generation)
        (.read generation [.disconnected reason])

/-- When the only sign of life is stopped, none is left. -/
theorem stopHeartbeat_of_alone
    {peer : Peer}
    {generation : Generation}
    (alone : peer.heartbeats.map (·.generation) = [generation]) :
    (peer.stopHeartbeat generation).heartbeats = [] := by
  refine List.filter_eq_nil_iff.mpr ?_
  intro heartbeat member
  have own := List.mem_map_of_mem (f := (·.generation)) member
  rw [alone, List.mem_singleton] at own
  simp [own]

/-- Signs of life that are put off stay those of the same sockets. -/
theorem generations_rearm
    (peer : Peer) :
    peer.rearm.heartbeats.map (·.generation) = peer.heartbeats.map (·.generation) := by
  rw [rearm, List.map_map]
  refine List.map_congr_left ?_
  intro heartbeat _
  simp only [Function.comp_apply]
  split <;> rfl

/-- What a reading is told as is never the end of a socket. -/
theorem isEnd_of_event?
    {reading : SocketReading}
    {event : PeerEvent}
    (told : event ∈ reading.event?.toList) :
    event.isEnd = false := by
  cases reading with
  | text raw =>
      cases List.mem_singleton.mp told
      unfold PeerEvent.ofText
      split <;> rfl
  | _ =>
      cases told

theorem moved_read
    {peer : Peer}
    {generation : Generation}
    (wasRead : peer.readers.any (·.generation == generation) = true)
    (reading : SocketReading) :
    Moved names peer (.read generation reading) (peer.read generation reading).1
      (.read generation (peer.read generation reading).2) := by
  obtain ⟨reader, member, own⟩ := List.any_eq_true.mp wasRead
  have present : ∃ reader ∈ peer.readers, reader.generation = generation :=
    ⟨reader, member, by simpa using own⟩
  unfold read
  split
  · next nobody =>
      exact absurd own (List.find?_eq_none.mp nobody reader member)
  · split
    · exact .wentOn fun _ told => isEnd_of_event? told
    · by_cases up : peer.link = some generation
      · have released :
            (peer.stopReader generation).release generation =
              { (peer.stopReader generation).stopHeartbeat generation with link := none } :=
          if_pos up
        simp only [released]
        exact .endedUp present up
      · have kept :
            (peer.stopReader generation).release generation = peer.stopReader generation :=
          if_neg up
        simp only [kept]
        exact .endedDown present up

end Peer

namespace PeerRun

/-- One act does to a client one of the things that it can do, and is remembered. -/
theorem moved_of_step?
    {run after : PeerRun}
    {act : PeerAct}
    (stepped : run.step? names act = some after) :
    ∃ happening,
      after.history = run.history ++ [happening] ∧
        run.peer.Moved names act after.peer happening := by
  cases act with
  | start id token =>
      simp only [step?, Peer.beginStart] at stepped
      by_cases busy : run.peer.call.isSome
      · simp [busy] at stepped
      · have idle : run.peer.call = none := by simpa using busy
        by_cases up : run.peer.isConnected
        · simp only [busy, up, Bool.false_eq_true, ↓reduceIte, Option.some.injEq] at stepped
          subst stepped
          exact ⟨_, rfl, .found idle up⟩
        · have down : run.peer.link = none := by simpa [Peer.isConnected] using up
          cases url : run.peer.options.socketUrl names id token with
          | error error =>
              simp only [busy, up, url, Bool.false_eq_true, ↓reduceIte,
                Option.some.injEq] at stepped
              subst stepped
              exact ⟨_, rfl, .misdirected idle down url⟩
          | ok url' =>
              simp only [busy, up, url, Bool.false_eq_true, ↓reduceIte,
                Option.some.injEq] at stepped
              subst stepped
              exact ⟨_, rfl, .dialing idle down url⟩
  | dialed result =>
      simp only [step?, Option.ite_none_right_eq_some, Option.some.injEq] at stepped
      obtain ⟨dialing, rfl⟩ := stepped
      refine ⟨_, rfl, ?_⟩
      cases result with
      | ok =>
          simp only [Peer.finishStart, dialing, ↓reduceIte]
          exact .connected dialing
      | error report =>
          simp only [Peer.finishStart, dialing, ↓reduceIte]
          exact .unreached dialing
  | close =>
      simp only [step?, Peer.beginClose] at stepped
      by_cases busy : run.peer.call.isSome
      · simp [busy] at stepped
      · have idle : run.peer.call = none := by simpa using busy
        cases link : run.peer.link with
        | none =>
            simp only [busy, link, Bool.false_eq_true, ↓reduceIte, Option.some.injEq]
              at stepped
            subst stepped
            exact ⟨_, rfl, .unlinked idle link⟩
        | some generation =>
            simp only [busy, link, Bool.false_eq_true, ↓reduceIte, Option.some.injEq]
              at stepped
            subst stepped
            exact ⟨_, rfl, .closing idle link⟩
  | drained =>
      simp only [step?] at stepped
      split at stepped
      · next generation closing =>
          cases stepped
          refine ⟨_, rfl, ?_⟩
          simp only [advance, Peer.finishClose, closing]
          exact .drained closing
      · cases stepped
  | giveUp =>
      simp only [step?, Option.ite_none_right_eq_some, Option.some.injEq] at stepped
      obtain ⟨-, rfl⟩ := stepped
      exact ⟨_, rfl, .gaveUp⟩
  | send text =>
      cases stepped
      exact ⟨_, rfl, .sent⟩
  | wait milliseconds =>
      cases stepped
      exact ⟨_, rfl, .waited⟩
  | read generation reading =>
      simp only [step?, Option.ite_none_right_eq_some, Option.some.injEq] at stepped
      obtain ⟨wasRead, rfl⟩ := stepped
      exact ⟨_, rfl, Peer.moved_read wasRead reading⟩

/-! ## Runs -/

/-- What holds at the start and survives every act holds of all that runs lead to. -/
theorem Reachable.induction
    {options : ClientOptions}
    {motive : PeerRun → Prop}
    (atStart : motive (PeerRun.start options))
    (preserved :
      ∀ {run act after},
        motive run →
        run.step? names act = some after →
        motive after)
    {run : PeerRun}
    (reachable : Reachable names options run) :
    motive run := by
  obtain ⟨acts, led⟩ := reachable
  have carried :
      ∀ acts first, motive first → first.run? names acts = some run → motive run := by
    intro acts
    induction acts with
    | nil =>
        intro first held ended
        cases ended
        exact held
    | cons act rest inductionHypothesis =>
        intro first held ended
        simp only [run?] at ended
        split at ended
        · cases ended
        · next after stepped =>
            exact inductionHypothesis after (preserved held stepped) ended
  exact carried acts _ atStart led

section Grown

variable
  {run after : PeerRun}
  {happening : PeerHappening}

theorem connected_of_grown
    (grown : after.history = run.history ++ [happening]) :
    after.connected = run.connected ++ happening.connected?.toList := by
  rw [connected, connected, grown, List.filterMap_append]
  cases found : happening.connected? <;> simp [found]

theorem ended_of_grown
    (grown : after.history = run.history ++ [happening]) :
    after.ended = run.ended ++ happening.ends := by
  simp [ended, grown]

end Grown

/-! ## The invariant -/

/-- What the sockets of a client have to do with its history. -/
structure Tidy (run : PeerRun) : Prop where
  /-- The sockets that were dialed with success are numbered in order. -/
  numbered : run.connected = List.range' 1 run.peer.generations
  /-- There is one sign of life, for the socket that is up. -/
  alive : run.peer.heartbeats.map (·.generation) = run.peer.link.toList
  /-- While a socket is dialed, none is up. -/
  dialingDown : run.peer.call = some .dialing → run.peer.link = none
  linkKnown :
    ∀ generation,
      run.peer.link = some generation →
      generation ≤ run.peer.generations
  readersKnown : ∀ reader ∈ run.peer.readers, reader.generation ≤ run.peer.generations
  endedKnown : ∀ generation ∈ run.ended, generation ≤ run.peer.generations
  /-- A socket whose end was told of is neither up nor read. -/
  endedDown : ∀ generation ∈ run.ended, run.peer.link ≠ some generation
  endedUnread :
    ∀ generation ∈ run.ended,
      ∀ reader ∈ run.peer.readers, reader.generation ≠ generation
  endedOnce : run.ended.Nodup

namespace Tidy

variable
  {run after : PeerRun}
  {happening : PeerHappening}

theorem start
    (options : ClientOptions) :
    Tidy (PeerRun.start options) where
  numbered := rfl
  alive := rfl
  dialingDown := fun impossible => nomatch impossible
  linkKnown := fun _ impossible => nomatch impossible
  readersKnown := fun _ impossible => nomatch impossible
  endedKnown := fun _ impossible => nomatch impossible
  endedDown := fun _ impossible => nomatch impossible
  endedUnread := fun _ impossible => nomatch impossible
  endedOnce := .nil

/-- While no socket is put up and none is told to have ended, less of the client is in order
if all of it was. -/
theorem shrink
    (tidy : Tidy run)
    (grown : after.history = run.history ++ [happening])
    (noneConnected : happening.connected? = none)
    (noneEnded : happening.ends = [])
    (sameCount : after.peer.generations = run.peer.generations)
    (alive : after.peer.heartbeats.map (·.generation) = after.peer.link.toList)
    (dialingDown : after.peer.call = some .dialing → after.peer.link = none)
    (wasUp : ∀ generation, after.peer.link = some generation → run.peer.link = some generation)
    (wasRead :
      ∀ reader ∈ after.peer.readers,
        ∃ earlier ∈ run.peer.readers, earlier.generation = reader.generation) :
    Tidy after := by
  have sameConnected : after.connected = run.connected := by
    simp [connected_of_grown grown, noneConnected]
  have sameEnded : after.ended = run.ended := by
    simp [ended_of_grown grown, noneEnded]
  exact {
    numbered := by rw [sameConnected, sameCount, tidy.numbered]
    alive := alive
    dialingDown := dialingDown
    linkKnown := fun generation up =>
      sameCount ▸ tidy.linkKnown generation (wasUp generation up)
    readersKnown := by
      intro reader member
      obtain ⟨earlier, earlierMember, same⟩ := wasRead reader member
      rw [sameCount, ← same]
      exact tidy.readersKnown earlier earlierMember
    endedKnown := sameEnded ▸ sameCount ▸ tidy.endedKnown
    endedDown := by
      intro generation hasEnded up
      exact tidy.endedDown generation (sameEnded ▸ hasEnded) (wasUp generation up)
    endedUnread := by
      intro generation hasEnded reader member
      obtain ⟨earlier, earlierMember, same⟩ := wasRead reader member
      rw [← same]
      exact tidy.endedUnread generation (sameEnded ▸ hasEnded) earlier earlierMember
    endedOnce := sameEnded ▸ tidy.endedOnce
  }

/-- A happening that leaves the client as it is leaves it in order. -/
theorem still
    (tidy : Tidy run)
    (grown : after.history = run.history ++ [happening])
    (noneConnected : happening.connected? = none)
    (noneEnded : happening.ends = [])
    (same : after.peer = run.peer) :
    Tidy after :=
  tidy.shrink grown noneConnected noneEnded (by rw [same])
    (by rw [same]; exact tidy.alive)
    (by rw [same]; exact tidy.dialingDown)
    (by rw [same]; exact fun _ up => up)
    (by rw [same]; exact fun reader member => ⟨reader, member, rfl⟩)

/-- A socket that was dialed is new, and gets the only sign of life. -/
theorem connect
    (tidy : Tidy run)
    (dialing : run.peer.call = some .dialing)
    (grown :
      after.history =
        run.history ++ [.dialed (.ok ()) (some (run.peer.generations + 1))])
    (isPeer : after.peer = { run.peer with call := none }.connect) :
    Tidy after := by
  have newConnected : after.connected = run.connected ++ [run.peer.generations + 1] :=
    connected_of_grown grown
  have sameEnded : after.ended = run.ended := by
    simp [ended_of_grown grown, PeerHappening.ends]
  have nobodyAlive : run.peer.heartbeats = [] := by
    simpa [tidy.dialingDown dialing] using tidy.alive
  have link : after.peer.link = some (run.peer.generations + 1) := by
    rw [isPeer]
    rfl
  have count : after.peer.generations = run.peer.generations + 1 := by
    rw [isPeer]
    rfl
  have readNow {reader : SocketReader} (member : reader ∈ after.peer.readers) :
      reader ∈ run.peer.readers ∨ reader = ⟨run.peer.generations + 1, 0⟩ := by
    rw [isPeer] at member
    simpa [Peer.connect] using member
  have notNew {generation : Generation} (hasEnded : generation ∈ after.ended) :
      generation ≤ run.peer.generations :=
    tidy.endedKnown generation (sameEnded ▸ hasEnded)
  exact {
    numbered := by
      rw [newConnected, tidy.numbered, count, List.range'_1_concat, Nat.add_comm]
    alive := by
      rw [isPeer]
      simp [Peer.connect, nobodyAlive]
    dialingDown := by
      rw [isPeer]
      exact fun impossible => nomatch impossible
    linkKnown := by
      intro generation up
      rw [link] at up
      cases up
      exact Nat.le_of_eq count.symm
    readersKnown := by
      intro reader member
      rw [count]
      rcases readNow member with old | new
      · exact Nat.le_succ_of_le (tidy.readersKnown reader old)
      · exact Nat.le_of_eq (congrArg SocketReader.generation new)
    endedKnown := by
      intro generation hasEnded
      rw [count]
      exact Nat.le_succ_of_le (notNew hasEnded)
    endedDown := by
      intro generation hasEnded up
      rw [link] at up
      cases up
      exact Nat.not_succ_le_self _ (notNew hasEnded)
    endedUnread := by
      intro generation hasEnded reader member same
      rcases readNow member with old | new
      · exact tidy.endedUnread generation (sameEnded ▸ hasEnded) reader old same
      · rw [new] at same
        subst same
        exact Nat.not_succ_le_self _ (notNew hasEnded)
    endedOnce := sameEnded ▸ tidy.endedOnce
  }

/-- A socket that ends is neither up nor read any more, and tells of its end for the first
time. -/
theorem finish
    (tidy : Tidy run)
    {generation : Generation}
    {reason : DisconnectReason}
    (wasRead : ∃ reader ∈ run.peer.readers, reader.generation = generation)
    (grown : after.history = run.history ++ [.read generation [.disconnected reason]])
    (sameCount : after.peer.generations = run.peer.generations)
    (sameCall : after.peer.call = run.peer.call)
    (alive : after.peer.heartbeats.map (·.generation) = after.peer.link.toList)
    (wasUp :
      ∀ other,
        after.peer.link = some other →
        run.peer.link = some other ∧ other ≠ generation)
    (stillRead : after.peer.readers = (run.peer.stopReader generation).readers) :
    Tidy after := by
  have sameConnected : after.connected = run.connected := by
    simp [connected_of_grown grown, PeerHappening.connected?]
  have newEnded : after.ended = run.ended ++ [generation] :=
    ended_of_grown grown
  have endedNow {other : Generation} (hasEnded : other ∈ after.ended) :
      other ∈ run.ended ∨ other = generation := by
    simpa [newEnded] using hasEnded
  have readBefore {reader : SocketReader} (member : reader ∈ after.peer.readers) :
      reader ∈ run.peer.readers ∧ reader.generation ≠ generation := by
    rw [stillRead] at member
    simpa [Peer.stopReader] using member
  obtain ⟨reader, readerMember, own⟩ := wasRead
  exact {
    numbered := by rw [sameConnected, sameCount, tidy.numbered]
    alive := alive
    dialingDown := by
      intro dialing
      have down := tidy.dialingDown (sameCall ▸ dialing)
      cases up : after.peer.link with
      | none => rfl
      | some other =>
          rw [down] at wasUp
          cases (wasUp other up).1
    linkKnown := fun other up => sameCount ▸ tidy.linkKnown other (wasUp other up).1
    readersKnown := fun other member =>
      sameCount ▸ tidy.readersKnown other (readBefore member).1
    endedKnown := by
      intro other hasEnded
      rw [sameCount]
      rcases endedNow hasEnded with before | now
      · exact tidy.endedKnown other before
      · rw [now, ← own]
        exact tidy.readersKnown reader readerMember
    endedDown := by
      intro other hasEnded up
      rcases endedNow hasEnded with before | now
      · exact tidy.endedDown other before (wasUp other up).1
      · exact (wasUp other up).2 now
    endedUnread := by
      intro other hasEnded later member
      rcases endedNow hasEnded with before | now
      · exact tidy.endedUnread other before later (readBefore member).1
      · rw [now]
        exact (readBefore member).2
    endedOnce := by
      have notYet : generation ∉ run.ended := fun already =>
        tidy.endedUnread generation already reader readerMember own
      rw [newEnded]
      exact tidy.endedOnce.append (List.nodup_singleton _) (by simpa using notYet)
  }

/-- Every act leaves a client in order. -/
theorem step
    {act : PeerAct}
    (tidy : Tidy run)
    (stepped : run.step? names act = some after) :
    Tidy after := by
  obtain ⟨happening, grown, moved⟩ := moved_of_step? stepped
  rcases after with ⟨peer, history⟩
  simp only at grown moved
  cases moved with
  | found | misdirected | unlinked | sent =>
      exact tidy.still grown rfl rfl rfl
  | dialing idle down valid =>
      exact tidy.shrink grown rfl rfl rfl tidy.alive (fun _ => down) (fun _ up => up)
        (fun reader member => ⟨reader, member, rfl⟩)
  | connected dialing =>
      exact tidy.connect dialing grown rfl
  | unreached dialing =>
      exact tidy.shrink grown rfl rfl rfl tidy.alive (fun impossible => nomatch impossible)
        (fun _ up => up) (fun reader member => ⟨reader, member, rfl⟩)
  | closing idle up =>
      have alone := tidy.alive
      rw [up] at alone
      refine tidy.shrink grown rfl rfl rfl ?_ (fun _ => rfl)
        (fun _ impossible => nomatch impossible) (fun reader member => ⟨reader, member, rfl⟩)
      exact congrArg _ (Peer.stopHeartbeat_of_alone alone)
  | drained closing =>
      refine tidy.shrink grown rfl rfl rfl tidy.alive (fun impossible => nomatch impossible)
        (fun _ up => up) ?_
      intro reader member
      exact ⟨reader, (List.mem_filter.mp member).1, rfl⟩
  | gaveUp =>
      exact tidy.shrink grown rfl rfl rfl tidy.alive (fun impossible => nomatch impossible)
        (fun _ up => up) (fun reader member => ⟨reader, member, rfl⟩)
  | waited =>
      refine tidy.shrink grown rfl rfl rfl ?_ tidy.dialingDown (fun _ up => up)
        (fun reader member => ⟨reader, member, rfl⟩)
      exact (Peer.generations_rearm _).trans tidy.alive
  | wentOn eventful =>
      refine tidy.shrink grown rfl ?_ rfl tidy.alive tidy.dialingDown (fun _ up => up) ?_
      · simp only [PeerHappening.ends, List.map_eq_nil_iff, List.filter_eq_nil_iff,
          Bool.not_eq_true]
        exact eventful
      · intro reader member
        obtain ⟨earlier, earlierMember, rfl⟩ := List.mem_map.mp member
        exact ⟨earlier, earlierMember, by split <;> rfl⟩
  | endedUp wasRead up =>
      have alone := tidy.alive
      rw [up] at alone
      refine tidy.finish wasRead grown rfl rfl ?_ (fun _ impossible => nomatch impossible) rfl
      exact congrArg _ (Peer.stopHeartbeat_of_alone alone)
  | endedDown wasRead down =>
      exact tidy.finish wasRead grown rfl rfl tidy.alive
        (fun other up => ⟨up, fun same => down (same ▸ up)⟩) rfl

theorem of_reachable
    {options : ClientOptions}
    (reachable : Reachable names options run) :
    Tidy run :=
  reachable.induction (.start options) fun tidy stepped => tidy.step stepped

end Tidy

variable
  {options : ClientOptions}
  {run after : PeerRun}
  {act : PeerAct}

/-! ## What one act does to the socket that is up -/

/-- A socket that is up stays up or is let go of, and none takes its place. -/
theorem link_of_up
    (tidy : Tidy run)
    (stepped : run.step? names act = some after)
    {generation : Generation}
    (up : run.peer.link = some generation) :
    after.peer.link = some generation ∨ after.peer.link = none := by
  obtain ⟨happening, -, moved⟩ := moved_of_step? stepped
  generalize after.peer = peer at moved ⊢
  cases moved with
  | closing | endedUp =>
      exact .inr rfl
  | connected dialing =>
      rw [tidy.dialingDown dialing] at up
      cases up
  | _ =>
      exact .inl up

/-- Where no socket is up, only a dialing that succeeds puts one up. -/
theorem link_of_down
    (stepped : run.step? names act = some after)
    (down : run.peer.link = none)
    (failing : act ≠ .dialed (.ok ())) :
    after.peer.link = none ∧ after.peer.generations = run.peer.generations := by
  obtain ⟨happening, -, moved⟩ := moved_of_step? stepped
  generalize after.peer = peer at moved ⊢
  cases moved with
  | connected =>
      exact (failing rfl).elim
  | closing | endedUp =>
      exact ⟨rfl, rfl⟩
  | _ =>
      exact ⟨down, rfl⟩

theorem link_of_down_run
    {acts : List PeerAct}
    (ran : run.run? names acts = some after)
    (down : run.peer.link = none)
    (failing : ∀ act ∈ acts, act.isDialed = false) :
    after.peer.link = none ∧ after.peer.generations = run.peer.generations := by
  induction acts generalizing run with
  | nil =>
      cases ran
      exact ⟨down, rfl⟩
  | cons act rest inductionHypothesis =>
      obtain ⟨actFails, restFails⟩ := List.forall_mem_cons.mp failing
      simp only [run?] at ran
      split at ran
      · cases ran
      · next middle stepped =>
          obtain ⟨middleDown, sameCount⟩ := link_of_down stepped down
            (fun same => by rw [same] at actFails; cases actFails)
          rw [← sameCount]
          exact inductionHypothesis ran middleDown restFails

/-- What an act does, and does not do, to the socket that is up. -/
structure LinkKept (names : NameMapping) (run : PeerRun) (act : PeerAct) (after : PeerRun) :
    Prop where
  /-- A socket that is up is never replaced by another. -/
  upKept :
    ∀ generation,
      run.peer.link = some generation →
      after.peer.link = some generation ∨ after.peer.link = none
  /-- Only a dialing that succeeds puts a socket up, and only where none is. -/
  filled :
    ∀ generation,
      run.peer.link ≠ some generation →
      after.peer.link = some generation →
      run.peer.link = none ∧ act = .dialed (.ok ())
  /-- A dialing that succeeds puts up the socket with the next number. -/
  dialed :
    act = .dialed (.ok ()) →
    after.peer.link = some (run.connected.length + 1) ∧
      after.connected = run.connected ++ [run.connected.length + 1]
  /-- A start that finds a socket up dials none and changes nothing. -/
  found :
    ∀ id token,
      act = .start id token →
      run.peer.link ≠ none →
      after.peer = run.peer ∧
        after.history = run.history ++ [.started .alreadyConnected]
  /-- A start whose URL is invalid changes nothing. -/
  misdirected :
    ∀ id token error,
      act = .start id token →
      run.peer.options.socketUrl names id token = .error error →
      after.peer = run.peer
  /-- A start whose dialing fails, whatever comes between, leaves the socket that is up, and
  the number of sockets, as they were when it began. -/
  unreached :
    ∀ id token between dialing report failed,
      act = .start id token →
      after.peer.call = some .dialing →
      after.run? names between = some dialing →
      (∀ act ∈ between, act.isDialed = false) →
      dialing.step? names (.dialed (.error report)) = some failed →
      failed.peer.link = run.peer.link ∧
        failed.peer.generations = run.peer.generations
  /-- Whatever a socket gives, another one that is up stays up with its sign of life. -/
  otherRead :
    ∀ generation reading other,
      act = .read generation reading →
      run.peer.link = some other →
      other ≠ generation →
      after.peer.link = some other ∧
        after.peer.heartbeats = run.peer.heartbeats

theorem found_of_step?
    {id token : String}
    (stepped : run.step? names (.start id token) = some after)
    (up : run.peer.link ≠ none) :
    after.peer = run.peer ∧ after.history = run.history ++ [.started .alreadyConnected] := by
  obtain ⟨happening, grown, moved⟩ := moved_of_step? stepped
  generalize after.peer = peer at moved ⊢
  cases moved with
  | found =>
      exact ⟨rfl, grown⟩
  | misdirected idle down | dialing idle down =>
      exact (up down).elim

theorem misdirected_of_step?
    {id token : String}
    {error : UrlError}
    (stepped : run.step? names (.start id token) = some after)
    (invalid : run.peer.options.socketUrl names id token = .error error) :
    after.peer = run.peer := by
  obtain ⟨happening, -, moved⟩ := moved_of_step? stepped
  generalize after.peer = peer at moved ⊢
  cases moved with
  | found | misdirected =>
      rfl
  | dialing idle down valid =>
      rw [valid] at invalid
      cases invalid

theorem otherRead_of_step?
    {generation other : Generation}
    {reading : SocketReading}
    (stepped : run.step? names (.read generation reading) = some after)
    (up : run.peer.link = some other)
    (different : other ≠ generation) :
    after.peer.link = some other ∧ after.peer.heartbeats = run.peer.heartbeats := by
  obtain ⟨happening, -, moved⟩ := moved_of_step? stepped
  generalize after.peer = peer at moved ⊢
  cases moved with
  | endedUp wasRead own =>
      rw [up] at own
      exact (different (Option.some.inj own)).elim
  | wentOn | endedDown =>
      exact ⟨up, rfl⟩

/-- An act on a client in order does to its socket what it may. -/
theorem linkKept_of_step?
    (tidy : Tidy run)
    (stepped : run.step? names act = some after) :
    LinkKept names run act after where
  upKept _ up := link_of_up tidy stepped up
  filled := by
    intro generation notYet up
    have down : run.peer.link = none := by
      cases before : run.peer.link with
      | none => rfl
      | some other =>
          rcases link_of_up tidy stepped before with kept | gone
          · rw [kept, ← before] at up
            exact (notYet up).elim
          · rw [gone] at up
            cases up
    refine ⟨down, ?_⟩
    apply Classical.byContradiction
    intro failing
    rw [(link_of_down stepped down failing).1] at up
    cases up
  dialed := by
    rintro rfl
    have count : run.connected.length = run.peer.generations := by
      simp [tidy.numbered]
    obtain ⟨happening, grown, moved⟩ := moved_of_step? stepped
    rw [connected_of_grown grown, count]
    generalize after.peer = peer at moved ⊢
    cases moved with
    | connected => exact ⟨rfl, rfl⟩
  found := by
    rintro id token rfl up
    exact found_of_step? stepped up
  misdirected := by
    rintro id token error rfl invalid
    exact misdirected_of_step? stepped invalid
  unreached := by
    rintro id token between dialing report failed rfl begun ran noneDialed refused
    have down : run.peer.link = none := by
      apply Classical.byContradiction
      intro up
      rw [(found_of_step? stepped up).1] at begun
      exact up (tidy.dialingDown begun)
    obtain ⟨afterDown, afterCount⟩ :=
      link_of_down stepped down (fun impossible => nomatch impossible)
    obtain ⟨dialingDown, dialingCount⟩ := link_of_down_run ran afterDown noneDialed
    obtain ⟨failedDown, failedCount⟩ :=
      link_of_down refused dialingDown (fun impossible => nomatch impossible)
    exact ⟨failedDown.trans down.symm,
      failedCount.trans (dialingCount.trans afterCount)⟩
  otherRead := by
    rintro generation reading other rfl up different
    exact otherRead_of_step? stepped up different

/--
However starts, closings, sends and readings are interleaved, the sockets that are dialed with
success are numbered from one in order.  There is exactly one sign of life while a socket is up,
which is its own, and none otherwise.  The end of a socket is told at most once, and when it is,
that socket is not up.  One act more never replaces the socket that is up; a start that finds
one does nothing; a start that fails leaves everything as it was; and what one socket gives does
not concern another.
-/
theorem one_socket_at_a_time
    (reachable : Reachable names options run) :
    run.connected = List.range' 1 run.connected.length ∧
      run.peer.heartbeats.map (·.generation) = run.peer.link.toList ∧
      run.ended.Nodup ∧
      (∀ generation ∈ run.ended, run.peer.link ≠ some generation) ∧
      ∀ act after,
        run.step? names act = some after →
        LinkKept names run act after := by
  have tidy := Tidy.of_reachable reachable
  refine ⟨?_, tidy.alive, tidy.endedOnce, tidy.endedDown, ?_⟩
  · rw [tidy.numbered, List.length_range']
  · intro act after stepped
    exact linkKept_of_step? tidy stepped

/-- A closing is given up, so that its socket is still read when the next one is up.  Then the
first one ends. -/
def overtaken : List PeerAct :=
  [.start "a" "t", .dialed (.ok ()), .close, .giveUp, .start "a" "t", .dialed (.ok ()),
    .read 1 .ended]

/-- The end of the first socket is told, and the second one keeps its sign of life, also when
the first one is read. -/
theorem one_socket_at_a_time_of_overtaken :
    ∃ run,
      (PeerRun.start {}).run? (fun _ => none) overtaken = some run ∧
        run.connected = [1, 2] ∧
        run.ended = [1] ∧
        run.peer.link = some 2 ∧
        run.peer.link ≠ some 1 ∧
        run.peer.heartbeats.map (·.generation) = [2] := by
  have computed :
      ((PeerRun.start {}).run? (fun _ => none) overtaken).map
          (fun run => (run.connected.length, run.ended, run.peer.link)) =
        some (2, [1], some 2) := by
    decide +kernel
  obtain ⟨run, ran, told⟩ := Option.map_eq_some_iff.mp computed
  simp only [Prod.mk.injEq] at told
  obtain ⟨count, ended, link⟩ := told
  obtain ⟨numbered, alive, -, down, -⟩ := one_socket_at_a_time ⟨overtaken, ran⟩
  rw [count] at numbered
  rw [link] at alive
  exact ⟨run, ran, numbered, ended, link, down 1 (by simp [ended]), alive⟩

end PeerRun

end SignalRelay
