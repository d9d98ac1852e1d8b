import SignalRelay.Proofs.Delivery
import SignalRelay.Proofs.Stopping
import SignalRelay.Proofs.Tenure

namespace SignalRelay

/-!
# How a session is read

A session is read until the first reading that stops it.  Every frame before that is acted on once
and in order, whether it can be decoded or not, and becomes one event.  Then the session ends:
its client is taken out of the directory if the connection is still its own, and the connection
is closed.

Meanwhile others go on.  What they do to the relay between two readings is anything that leaves
the session's client its own id, and nobody ever takes that away (`Server.knows_of_step?`).
-/

namespace ReadResult

/-- Whether reading failed without the connection being torn down. -/
def isFailure : ReadResult → Bool
  | .failure => true
  | _ => false

end ReadResult

namespace Event

/-- The one event that a frame of a client becomes. -/
inductive TellsOf (id : String) (connection : ConnectionId) (octets : Octets) :
    Event → Prop where
  | message
      {message : Message}
      (read : Message.ofOctets octets = .ok message) :
      TellsOf id connection octets (.message id (message.withSource id))
  | malformed
      {fault : Fault}
      (refused : Message.ofOctets octets = .error fault) :
      TellsOf id connection octets (.malformed id connection (fault.report octets))

end Event

namespace Session

variable {before : List ReadResult}

/-- A session stops at a closing, where the connection is torn down, at the end, and at the last
of eight failures in a row. -/
def Stops (before : List ReadResult) (last : ReadResult) : Prop :=
  last = .close ∨
    last = .reset ∨
    last = .ended ∨
    FailInARow ReadResult.isFailure 8 (before ++ [last])

/-- What stops a session holds nothing to act on. -/
theorem frame?_of_stops
    {last : ReadResult}
    (stops : Stops before last) :
    frame? last = none := by
  rcases stops with rfl | rfl | rfl | inARow
  · rfl
  · rfl
  · rfl
  · obtain ⟨failing, -⟩ := (failInARow_concat_iff last).mp inARow
    cases last with
    | failure => rfl
    | _ => cases failing

/-- A session that has counted the failures stops just where it should, and goes on counting
otherwise. -/
theorem after_of_counted
    (session : Session)
    (counted : session.failures = failuresAtEnd ReadResult.isFailure before)
    (last : ReadResult) :
    (Stops before last ∧ session.after last = none) ∨
      (¬Stops before last ∧
        session.after last =
          some { session with
            failures := failuresAtEnd ReadResult.isFailure (before ++ [last]) }) := by
  have passing (success : last.isFailure = false) :
      ¬FailInARow ReadResult.isFailure 8 (before ++ [last]) := by
    rw [failInARow_concat_iff, success]
    exact fun inARow => nomatch inARow.1
  have anew (success : last.isFailure = false) :
      failuresAtEnd ReadResult.isFailure (before ++ [last]) = 0 := by
    rw [failuresAtEnd_concat, success]
    rfl
  cases last with
  | close => exact .inl ⟨.inl rfl, rfl⟩
  | reset => exact .inl ⟨.inr (.inl rfl), rfl⟩
  | ended => exact .inl ⟨.inr (.inr (.inl rfl)), rfl⟩
  | text | binary | ping | pong =>
      exact .inr ⟨by simpa [Stops] using passing rfl, by rw [anew rfl]; rfl⟩
  | failure =>
      by_cases more : session.failures + 1 < failureLimit
      · refine .inr ⟨?_, ?_⟩
        · simp only [Stops, reduceCtorEq, false_or]
          rw [failInARow_concat_iff, ← counted]
          exact fun inARow => Nat.not_lt.mpr inARow.2 (Nat.lt_of_succ_lt_succ more)
        · rw [failuresAtEnd_concat, ← counted]
          simp only [after, if_pos more]
          rfl
      · refine .inl ⟨.inr (.inr (.inr ?_)), by simp only [after, if_neg more]⟩
        rw [failInARow_concat_iff, ← counted]
        exact ⟨rfl, Nat.le_of_succ_le_succ (Nat.le_of_not_lt more)⟩

end Session

namespace Relay

variable {relay : Relay} {client : ClientRef} {connection : ConnectionId} {id : String}
  {arrivals : List (Arrival Relay ReadResult)}

/-! ## Reading while others go on -/

/-- Read a session while others go on, until it stops. -/
def readAmid (relay : Relay) (session : Session) :
    List (Arrival Relay ReadResult) → Relay × Journal × Option Session
  | [] => (relay, [], some session)
  | arrival :: later =>
      match (arrival.meanwhile relay).readThrough session [arrival.reading] with
      | (read, journal, some session) =>
          let (after, rest, session?) := readAmid read session later
          (after, journal ++ rest, session?)
      | (ended, journal, none) => (ended, journal, none)

/-- Begin a session and read it while others go on. -/
def runAmid (relay : Relay) (session : Session)
    (arrivals : List (Arrival Relay ReadResult)) : Relay × Journal × Option Session :=
  let (after, journal, session?) := relay.readAmid session arrivals
  (after, relay.beginSession session ++ journal, session?)

/-- Act on every frame that is read, one after another, while others go on. -/
def feed (relay : Relay) (client : ClientRef) (connection : ConnectionId) :
    List (Arrival Relay ReadResult) → Relay × Journal
  | [] => (relay, [])
  | arrival :: later =>
      match Session.frame? arrival.reading with
      | some octets =>
          let (read, journal) := (arrival.meanwhile relay).readFrame client connection octets
          let (after, rest) := read.feed client connection later
          (after, journal ++ rest)
      | none => (arrival.meanwhile relay).feed client connection later

/-- Where nobody does anything between the readings, a session is read as it is read alone. -/
theorem runAmid_undisturbed
    (session : Session)
    (results : List ReadResult) :
    relay.runAmid session (results.map .undisturbed) = relay.runSession session results := by
  have read (relay : Relay) (session : Session) :
      relay.readAmid session (results.map .undisturbed) =
        relay.readThrough session results := by
    induction results generalizing relay session with
    | nil => rfl
    | cons result later inductionHypothesis =>
        simp only [List.map_cons, readAmid, Arrival.undisturbed, id_eq, readThrough]
        cases session.after result with
        | none => rfl
        | some next =>
            dsimp only
            rw [inductionHypothesis, List.append_nil]
  rw [runAmid, runSession, read]

/-- What is read first is acted on first. -/
theorem feed_cons
    (relay : Relay)
    (session : Session)
    (arrival : Arrival Relay ReadResult)
    (later : List (Arrival Relay ReadResult)) :
    relay.feed session.client session.connection (arrival :: later) =
      let read := (arrival.meanwhile relay).readResult session arrival.reading
      let rest := read.1.feed session.client session.connection later
      (rest.1, read.2 ++ rest.2) := by
  simp only [feed, readResult]
  cases Session.frame? arrival.reading <;> rfl

/-- A session that goes on at a reading acts on it and reads what comes later. -/
theorem readAmid_of_after
    {session next : Session}
    {arrival : Arrival Relay ReadResult}
    (goesOn : session.after arrival.reading = some next)
    (later : List (Arrival Relay ReadResult)) :
    relay.readAmid session (arrival :: later) =
      let read := (arrival.meanwhile relay).readResult session arrival.reading
      let rest := read.1.readAmid next later
      (rest.1, read.2 ++ rest.2.1, rest.2.2) := by
  simp only [readAmid, readThrough, goesOn, List.append_nil]

/-- A session ends at the reading that stops it, and what comes later is not read. -/
theorem readAmid_of_stops
    {session : Session}
    {before : List ReadResult}
    {arrival : Arrival Relay ReadResult}
    (stops : Session.Stops before arrival.reading)
    (stopped : session.after arrival.reading = none)
    (later : List (Arrival Relay ReadResult)) :
    relay.readAmid session (arrival :: later) =
      let ended := (arrival.meanwhile relay).endSession session
      (ended.1, ended.2, none) := by
  simp only [readAmid, readThrough, stopped, readResult, Session.frame?_of_stops stops,
    List.nil_append]

/-- A session that has counted the failures either acts on all that is read, or acts on what is
read before the first place where it stops, and ends there. -/
theorem readAmid_goes_on_or_ends
    (relay : Relay)
    (client : ClientRef)
    (connection : ConnectionId)
    (arrivals : List (Arrival Relay ReadResult))
    {failures : Nat}
    {before : List ReadResult}
    (counted : failures = failuresAtEnd ReadResult.isFailure before) :
    (NeverStops (Behind Session.Stops before) (arrivals.map (·.reading)) ∧
        ∃ next,
          relay.readAmid ⟨client, connection, failures⟩ arrivals =
            ((relay.feed client connection arrivals).1,
              (relay.feed client connection arrivals).2, some next)) ∨
      ∃ between stop later,
        arrivals = between ++ stop :: later ∧
          StopsFirst (Behind Session.Stops before) (between.map (·.reading)) stop.reading ∧
          let fed := relay.feed client connection between
          let ended := (stop.meanwhile fed.1).endSession (.start client connection)
          relay.readAmid ⟨client, connection, failures⟩ arrivals =
            (ended.1, fed.2 ++ ended.2, none) := by
  induction arrivals generalizing relay failures before with
  | nil => exact .inl ⟨.nil, _, rfl⟩
  | cons arrival later inductionHypothesis =>
      rcases Session.after_of_counted ⟨client, connection, failures⟩ counted
        arrival.reading with ⟨stops, stopped⟩ | ⟨passes, goesOn⟩
      · exact .inr ⟨[], arrival, later, rfl, .nil stops, readAmid_of_stops stops stopped later⟩
      · have fed (more : List (Arrival Relay ReadResult)) :=
          relay.feed_cons ⟨client, connection, failures⟩ arrival more
        rw [readAmid_of_after goesOn]
        rcases inductionHypothesis
            ((arrival.meanwhile relay).readResult
              ⟨client, connection, failures⟩ arrival.reading).1 rfl with
          ⟨never, next, read⟩ | ⟨between, stop, rest, whole, stopsFirst, read⟩
        · refine .inl ⟨.cons passes never, next, ?_⟩
          rw [fed later]
          dsimp only
          rw [read]
        · refine .inr ⟨arrival :: between, stop, rest, congrArg (arrival :: ·) whole,
            .cons passes stopsFirst, ?_⟩
          rw [fed between]
          dsimp only
          rw [read]
          simp only [List.append_assoc]

/-! ## The client that a session is read for -/

/-- A client is there, and this is its own id. -/
def Knows (relay : Relay) (client : ClientRef) (id : String) : Prop :=
  ∃ held, relay.client? client = some held ∧ held.id = id

theorem Knows.clientId
    (knows : relay.Knows client id) :
    relay.clientId client = id := by
  obtain ⟨held, known, rfl⟩ := knows
  exact clientId_of_client? known

/-- A handshake binds clients and adds them, and leaves their ids as they are. -/
theorem Knows.handshake
    (knows : relay.Knows client id)
    (parameters : HandshakeParameters)
    (connection : ConnectionId) :
    (relay.handshake parameters connection).1.Knows client id := by
  obtain ⟨held, known, own⟩ := knows
  have result := handshake_result relay parameters connection
  generalize relay.handshake parameters connection = shaken at result
  cases result with
  | refused => exact ⟨held, known, own⟩
  | @rebound _ bound _ =>
      by_cases same : bound = client
      · refine ⟨{ held with connection := some connection }, ?_, own⟩
        rw [client?_bind, if_pos same, known]
        rfl
      · exact ⟨held, (client?_bind_other (Ne.symm same) relay connection).trans known, own⟩
  | registered => exact ⟨held, client?_withNewClient_of_some known _, own⟩

end Relay

namespace Server

end Server

namespace Relay

variable {relay : Relay} {client : ClientRef} {connection : ConnectionId} {id : String}
  {arrivals : List (Arrival Relay ReadResult)}

/-! ## What is told -/

/-- The same client connects once more. -/
def reconnected (relay : Relay) : Relay :=
  (Server.dial ⟨relay, [], []⟩ none ⟨some "a", some "t", some "peerjs"⟩).relay

end Relay

end SignalRelay
