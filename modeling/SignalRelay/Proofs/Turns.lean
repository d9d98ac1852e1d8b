import Mathlib.Data.List.Induction
import SignalRelay.Proofs.Holders

namespace SignalRelay

/-!
# Turns of callers

Handshakes and ends of sessions, told apart by who calls: connections are numbered as they come,
so a caller has a connection of a different number wherever the order is different.  Every turn
concerns one id.  Who holds an id is a function of the turns that concern it, as long as there is
room for all ids.
-/

/-- Somebody who connects once, and what is presented then. -/
structure Caller where
  number : Nat
  address : Option SocketAddress
  parameters : HandshakeParameters
  deriving Repr, DecidableEq

/-- What a caller does. -/
inductive Turn where
  /-- The caller connects and shakes hands. -/
  | arrive : Caller → Turn
  /-- The session of the caller ends. -/
  | leave : Caller → Turn
  deriving Repr, DecidableEq

namespace Turn

/-- The caller whose turn it is. -/
def caller : Turn → Caller
  | .arrive caller => caller
  | .leave caller => caller

/-- The id that a turn concerns. -/
def subject? (turn : Turn) : Option String :=
  turn.caller.parameters.id

/-- The caller who arrives. -/
def arrival? : Turn → Option Caller
  | .arrive caller => some caller
  | .leave _ => none

/-- The turns that concern an id. -/
def concerning (subject? : Option String) (turns : List Turn) : List Turn :=
  turns.filter (·.subject? == subject?)

/-- The callers in the order in which they arrive. -/
def arrivals (turns : List Turn) : List Caller :=
  turns.filterMap arrival?

/-- The ids that are presented. -/
def presentedIds (turns : List Turn) : List String :=
  (arrivals turns).filterMap (·.parameters.id)

/-- What is done to a server at a turn, when connections are numbered in the order of some
callers. -/
def act (callers : List Caller) : Turn → Act
  | .arrive caller => .dial caller.address caller.parameters
  | .leave caller => .finish (callers.idxOf caller)

/-- The number of a caller's connection. -/
def connection (turns : List Turn) (caller : Caller) : ConnectionId :=
  (arrivals turns).idxOf caller

/-- What is done to a server at some turns. -/
def acts (turns : List Turn) : List Act :=
  turns.map (act (arrivals turns))

/-! ## Turns one after another -/

variable {turns : List Turn} {caller : Caller}

theorem concerning_concat_own
    (turns : List Turn)
    (turn : Turn) :
    concerning turn.subject? (turns ++ [turn]) = concerning turn.subject? turns ++ [turn] := by
  simp [concerning]

theorem concerning_concat_other
    (turns : List Turn)
    {turn : Turn}
    {subject? : Option String}
    (different : turn.subject? ≠ subject?) :
    concerning subject? (turns ++ [turn]) = concerning subject? turns := by
  simp [concerning, different]

theorem concerning_middle
    (turn : Turn)
    (before between : List Turn) :
    concerning turn.subject? (before ++ turn :: between) =
      concerning turn.subject? before ++ turn :: concerning turn.subject? between := by
  simp [concerning]

theorem arrivals_arrive
    (turns : List Turn)
    (caller : Caller) :
    arrivals (turns ++ [.arrive caller]) = arrivals turns ++ [caller] := by
  simp [arrivals, arrival?]

theorem arrivals_leave
    (turns : List Turn)
    (caller : Caller) :
    arrivals (turns ++ [.leave caller]) = arrivals turns := by
  simp [arrivals, arrival?]

theorem mem_arrivals :
    caller ∈ arrivals turns ↔ .arrive caller ∈ turns := by
  simp only [arrivals, List.mem_filterMap]
  constructor
  · rintro ⟨turn, member, found⟩
    cases turn with
    | arrive =>
        cases found
        exact member
    | leave =>
        cases found
  · exact fun member => ⟨.arrive caller, member, rfl⟩

theorem mem_presentedIds
    {id : String}
    (arrives : .arrive caller ∈ turns)
    (presents : caller.parameters.id = some id) :
    id ∈ presentedIds turns :=
  List.mem_filterMap.mpr ⟨caller, mem_arrivals.mpr arrives, presents⟩

end Turn

/-- Who holds an id: the token of the id, and the caller that is bound to it. -/
structure Seat where
  token : String
  caller : Caller
  deriving Repr, DecidableEq

/-- What a turn comes to. -/
inductive Report where
  | answered : HandshakeLabel → Report
  /-- The session ended; tells whether the id was given up. -/
  | left : (evicted : Bool) → Report
  deriving Repr, DecidableEq

namespace Seat

/-- How a handshake ends where the holder of its id is known and there is room. -/
def answer (settings : Settings) (holder : Option Seat) (caller : Caller) :
    HandshakeLabel :=
  match settings.examine caller.parameters, holder with
  | .error code, _ => .rejected code
  | .ok _, none => .registered
  | .ok credentials, some seat =>
      if seat.token = credentials.token then .reconnected else .idTaken

/-- What a turn comes to. -/
def report (settings : Settings) (holder : Option Seat) : Turn → Report
  | .arrive caller => .answered (answer settings holder caller)
  | .leave caller => .left (decide (holder.map (·.caller) = some caller))

/-- Who holds an id after a turn that concerns it. -/
def after (settings : Settings) (holder : Option Seat) : Turn → Option Seat
  | .arrive caller =>
      match settings.examine caller.parameters, holder with
      | .error _, _ => holder
      | .ok credentials, none => some ⟨credentials.token, caller⟩
      | .ok credentials, some seat =>
          if seat.token = credentials.token then some ⟨seat.token, caller⟩ else holder
  | .leave caller => if holder.map (·.caller) = some caller then none else holder

/-- Who holds an id after some turns, of which those count that concern it. -/
def holder? (settings : Settings) (subject? : Option String) (turns : List Turn) :
    Option Seat :=
  (Turn.concerning subject? turns).foldl (after settings) none

/-- The client that a seat stands for, when connections are numbered in the order of some
callers. -/
def client (callers : List Caller) (id : String) (seat : Seat) : Client :=
  ⟨id, seat.token, some (callers.idxOf seat.caller)⟩

variable {settings : Settings} {turns : List Turn}

theorem holder?_concat_own
    (settings : Settings)
    (turns : List Turn)
    (turn : Turn) :
    holder? settings turn.subject? (turns ++ [turn]) =
      after settings (holder? settings turn.subject? turns) turn := by
  rw [holder?, Turn.concerning_concat_own, List.foldl_append]
  rfl

theorem holder?_concat_other
    {turn : Turn}
    {subject? : Option String}
    (different : turn.subject? ≠ subject?) :
    holder? settings subject? (turns ++ [turn]) = holder? settings subject? turns := by
  rw [holder?, Turn.concerning_concat_other _ different, holder?]

/-- After a turn an id has its holder from before, or belongs to the caller whose turn it was. -/
theorem of_after
    {holder : Option Seat}
    {turn : Turn}
    {seat : Seat}
    (stands : after settings holder turn = some seat) :
    holder = some seat ∨
      turn = .arrive seat.caller ∧
        ∃ credentials, settings.examine seat.caller.parameters = .ok credentials := by
  cases turn with
  | leave caller =>
      simp only [after, Option.ite_none_left_eq_some] at stands
      exact .inl stands.2
  | arrive caller =>
      simp only [after] at stands
      split at stands
      · exact .inl stands
      · next credentials passed =>
          cases stands
          exact .inr ⟨rfl, _, passed⟩
      · next credentials held passed =>
          split at stands
          · cases stands
            exact .inr ⟨rfl, _, passed⟩
          · exact .inl stands

/-- The holder of an id has arrived, presented the id and passed the examination. -/
theorem of_holder?
    {subject? : Option String}
    {seat : Seat}
    (stands : holder? settings subject? turns = some seat) :
    .arrive seat.caller ∈ turns ∧
      seat.caller.parameters.id = subject? ∧
      ∃ credentials, settings.examine seat.caller.parameters = .ok credentials := by
  induction turns using List.reverseRecOn with
  | nil =>
      cases stands
  | append_singleton turns turn inductionHypothesis =>
      by_cases own : turn.subject? = subject?
      · subst own
        rw [holder?_concat_own] at stands
        rcases of_after stands with before | ⟨arrives, passed⟩
        · obtain ⟨member, rest⟩ := inductionHypothesis before
          exact ⟨List.mem_append_left _ member, rest⟩
        · exact ⟨List.mem_append_right _ (arrives ▸ List.mem_cons_self), by rw [arrives]; rfl,
            passed⟩
      · rw [holder?_concat_other own] at stands
        obtain ⟨member, rest⟩ := inductionHypothesis stands
        exact ⟨List.mem_append_left _ member, rest⟩

/-- Without an id nobody holds anything. -/
theorem holder?_none
    (settings : Settings)
    (turns : List Turn) :
    holder? settings none turns = none := by
  cases stands : holder? settings none turns with
  | none =>
      rfl
  | some seat =>
      obtain ⟨-, presents, credentials, passed⟩ := of_holder? stands
      rw [(Settings.of_examine passed).1] at presents
      cases presents

end Seat

end SignalRelay
