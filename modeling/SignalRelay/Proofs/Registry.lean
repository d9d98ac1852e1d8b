import SignalRelay.Proofs.Handshake
import SignalRelay.Relay.Registry

namespace SignalRelay

/-!
# What a registry tells

Clients are shared: one client may stand under several ids and under ids that are not its own, and
whoever has it may bind it.  A run of the registry keeps what was done, with what whoever did it was
told.  What stands under an id, and what a client is bound to, is said by this history alone: by
the last event that concerns the id, and by the last one that binds the client.
-/

/-! ## Calls and events -/

/-- What can be done with a registry and with clients. -/
inductive RegistryCall where
  /-- Make a client. -/
  | create : Client → RegistryCall
  | bind : ClientRef → ConnectionId → RegistryCall
  | set : ClientRef → (id : String) → RegistryCall
  | removeById : String → RegistryCall
  | removeIfBound : String → ConnectionId → RegistryCall
  | enroll : (id token : String) → ConnectionId → (limit : Nat) → RegistryCall

/-- What was done, with what was told of it. -/
inductive RegistryEvent where
  | created : ClientRef → Client → RegistryEvent
  | bound : ClientRef → ConnectionId → (replaced : Option ConnectionId) → RegistryEvent
  | set : ClientRef → (id : String) → (replaced : Option ClientRef) → RegistryEvent
  | removedById : String → (removed : Option ClientRef) → RegistryEvent
  | removedIfBound : String → ConnectionId → (removed : Option ClientRef) → RegistryEvent
  | enrolled : (id token : String) → ConnectionId → (limit : Nat) → Admission → RegistryEvent
  deriving DecidableEq

namespace RegistryCall

/-- The client that has to be at hand for a call. -/
def client? : RegistryCall → Option ClientRef
  | .bind client _ => some client
  | .set client _ => some client
  | .create _ | .removeById _ | .removeIfBound .. | .enroll .. => none

/-- The id that a call is about. -/
def id? : RegistryCall → Option String
  | .set _ id => some id
  | .removeById id => some id
  | .removeIfBound id _ => some id
  | .enroll id .. => some id
  | .create _ | .bind .. => none

/-- Whether there is the client that has to be at hand. -/
def canBeMade (relay : Relay) (call : RegistryCall) : Bool :=
  call.client?.all fun client => client < relay.clients.length

end RegistryCall

namespace RegistryEvent

/-- The call that an event tells of. -/
def call : RegistryEvent → RegistryCall
  | .created _ client => .create client
  | .bound client connection _ => .bind client connection
  | .set client id _ => .set client id
  | .removedById id _ => .removeById id
  | .removedIfBound id connection _ => .removeIfBound id connection
  | .enrolled id token connection limit _ => .enroll id token connection limit

/-- The id under which an event stores a client or from which it successfully takes one away, with
the client that it stores. -/
def change? : RegistryEvent → Option (String × Option ClientRef)
  | .set client id _ => some (id, some client)
  | .removedById id removed => removed.map fun _ => (id, none)
  | .removedIfBound id _ removed => removed.map fun _ => (id, none)
  | .enrolled id _ _ _ (.registered client) => some (id, some client)
  | .enrolled _ _ _ _ (.rebound ..) => none
  | .enrolled _ _ _ _ .idTaken => none
  | .enrolled _ _ _ _ .limitReached => none
  | .created .. | .bound .. => none

/-- The client that an event makes or binds, with the connection that it has then. -/
def binding? : RegistryEvent → Option (ClientRef × Option ConnectionId)
  | .created reference client => some (reference, client.connection)
  | .bound client connection _ => some (client, some connection)
  | .enrolled _ _ connection _ (.registered client) => some (client, some connection)
  | .enrolled _ _ connection _ (.rebound client _) => some (client, some connection)
  | .enrolled _ _ _ _ .idTaken => none
  | .enrolled _ _ _ _ .limitReached => none
  | .set .. | .removedById .. | .removedIfBound .. => none

/-- What was told is so in the state before. -/
def TrueOf (before : Relay) : RegistryEvent → Prop
  | .created reference _ => before.client? reference = none
  | .bound client _ replaced => replaced = before.connectionOf client
  | .set _ id replaced => replaced = before.directory.find? id
  | .removedById id removed => removed = before.directory.find? id
  | .removedIfBound id connection removed =>
      ∀ client,
        removed = some client ↔
          before.directory.find? id = some client ∧
            before.connectionOf client = some connection
  | .enrolled id _ _ limit (.registered client) =>
      before.directory.find? id = none ∧
        before.directory.size < limit ∧
        before.client? client = none
  | .enrolled id token _ _ (.rebound client previous) =>
      before.directory.find? id = some client ∧
        before.tokenMatches client token = true ∧
        previous = before.connectionOf client
  | .enrolled id token _ _ .idTaken =>
      ∃ client,
        before.directory.find? id = some client ∧ before.tokenMatches client token = false
  | .enrolled id _ _ limit .limitReached =>
      before.directory.find? id = none ∧ limit ≤ before.directory.size

end RegistryEvent

/-- A relay with what was done with its registry. -/
structure RegistryRun where
  relay : Relay
  history : List RegistryEvent

namespace RegistryCall

/-- What a call does to a relay, and what whoever makes it is told. -/
def answer (relay : Relay) : RegistryCall → Relay × RegistryEvent
  | .create client =>
      let (after, reference) := relay.addClient client
      (after, .created reference client)
  | .bind client connection =>
      let (after, replaced) := relay.rebind client connection
      (after, .bound client connection replaced)
  | .set client id =>
      let (after, replaced) := relay.set client id
      (after, .set client id replaced)
  | .removeById id =>
      let (after, removed) := relay.removeById id
      (after, .removedById id removed)
  | .removeIfBound id connection =>
      let (after, removed) := relay.removeIfBound id connection
      (after, .removedIfBound id connection removed)
  | .enroll id token connection limit =>
      let (after, admission) := relay.enroll id token connection limit
      (after, .enrolled id token connection limit admission)

end RegistryCall

namespace RegistryRun

/-- An empty registry, of which nothing has been asked. -/
def start (settings : Settings) : RegistryRun :=
  ⟨.start settings, []⟩

/-- Make a call.  Nobody has a client that there is not. -/
def act (run : RegistryRun) (call : RegistryCall) : RegistryRun :=
  if call.canBeMade run.relay then
    let (relay, event) := call.answer run.relay
    ⟨relay, run.history ++ [event]⟩
  else
    run

/-- Make one call after another. -/
def perform (run : RegistryRun) (calls : List RegistryCall) : RegistryRun :=
  calls.foldl act run

end RegistryRun

/-! ## What is said last -/

namespace RegistryEvent

variable {κ α : Type} [DecidableEq κ]

/-- What is said of a key, if it is the one of which anything is said. -/
def about? (key : κ) : Option (κ × Option α) → Option (Option α)
  | some (other, value) => if other = key then some value else none
  | none => none

/-- What the last event that says anything of a key says of it. -/
def latest? (say : RegistryEvent → Option (κ × Option α)) (key : κ)
    (history : List RegistryEvent) : Option α :=
  (history.reverse.findSome? fun event => about? key (say event)).join

theorem about?_eq_some_iff
    {key : κ}
    {said : Option (κ × Option α)}
    {value : Option α} :
    about? key said = some value ↔ said = some (key, value) := by
  rcases said with - | ⟨other, held⟩
  · simp [about?]
  · simp [about?]

theorem about?_eq_none_iff
    {key : κ}
    {said : Option (κ × Option α)} :
    about? key said = none ↔ ∀ value, said ≠ some (key, value) := by
  simp only [Option.eq_none_iff_forall_ne_some, ne_eq, about?_eq_some_iff]

theorem getD_about?_some
    (key other : κ)
    (value usual : Option α) :
    (about? key (some (other, value))).getD usual = if other = key then value else usual :=
  apply_ite (Option.getD · usual) ..

/-- The last event decides, if it says anything. -/
theorem latest?_concat
    (say : RegistryEvent → Option (κ × Option α))
    (key : κ)
    (history : List RegistryEvent)
    (event : RegistryEvent) :
    latest? say key (history ++ [event]) =
      (about? key (say event)).getD (latest? say key history) := by
  rw [latest?, List.reverse_concat, List.findSome?_cons]
  cases about? key (say event) <;> rfl

theorem latest?_eq_some_iff
    {say : RegistryEvent → Option (κ × Option α)}
    {key : κ}
    {history : List RegistryEvent}
    {value : α} :
    latest? say key history = some value ↔
      ∃ earlier event later,
        history = earlier ++ event :: later ∧
          say event = some (key, some value) ∧
          ∀ other ∈ later, ∀ held, say other ≠ some (key, held) := by
  simp only [latest?, Option.join_eq_some_iff, List.findSome?_eq_some_iff, about?_eq_some_iff,
    about?_eq_none_iff]
  constructor
  · rintro ⟨later, event, earlier, split, tells, silent⟩
    refine ⟨earlier.reverse, event, later.reverse, ?_, tells, fun other member =>
      silent other (List.mem_reverse.mp member)⟩
    rw [← List.reverse_reverse history, split]
    simp
  · rintro ⟨earlier, event, later, rfl, tells, silent⟩
    exact ⟨later.reverse, event, earlier.reverse, by simp, tells, fun other member =>
      silent other (List.mem_reverse.mp member)⟩

/-- An event changes nothing but what stands under the id that its call is about. -/
theorem id?_call_of_change?
    {event : RegistryEvent}
    {id : String}
    {entry : Option ClientRef}
    (changes : event.change? = some (id, entry)) :
    event.call.id? = some id := by
  cases event with
  | created | bound => cases changes
  | set => cases changes; rfl
  | removedById id removed | removedIfBound id _ removed =>
      cases removed with
      | none => cases changes
      | some => cases changes; rfl
  | enrolled id token connection limit admission =>
      cases admission with
      | registered => cases changes; rfl
      | rebound | idTaken | limitReached => cases changes

end RegistryEvent

/-! ## What a call does -/

namespace Directory

/-- Change what stands under an id. -/
def change (directory : Directory) : String × Option ClientRef → Directory
  | (id, some client) => directory.insert id client
  | (id, none) => directory.erase id

theorem find?_change
    (directory : Directory)
    (id : String)
    (entry : Option ClientRef)
    (other : String) :
    (directory.change (id, entry)).find? other =
      if id = other then entry else directory.find? other := by
  split
  · next same =>
      subst same
      cases entry with
      | none => exact find?_erase_same directory id
      | some client => exact find?_insert_same directory id client
  · next different =>
      cases entry with
      | none => exact find?_erase_other (Ne.symm different) directory
      | some client => exact find?_insert_other (Ne.symm different) directory client

theorem ascending_change
    {directory : Directory}
    (ascending : Keyed.Ascending directory.entries)
    (change : String × Option ClientRef) :
    Keyed.Ascending (directory.change change).entries := by
  rcases change with ⟨id, - | client⟩
  · exact Keyed.ascending_erase id ascending
  · exact Keyed.ascending_insert id client ascending

end Directory

namespace Relay

variable {relay : Relay}

theorem connectionOf_bind
    {client : ClientRef}
    (known : client < relay.clients.length)
    (connection : ConnectionId)
    (other : ClientRef) :
    (relay.bind client connection).connectionOf other =
      if client = other then some connection else relay.connectionOf other := by
  rw [connectionOf, client?_bind]
  split
  · next same =>
      subst same
      rw [client?, List.getElem?_eq_getElem known]
      rfl
  · rfl

theorem connectionOf_addClient
    (relay : Relay)
    (client : Client)
    (other : ClientRef) :
    (relay.addClient client).1.connectionOf other =
      if relay.clients.length = other then
        client.connection
      else
        relay.connectionOf other := by
  rw [connectionOf, client?_addClient]
  split <;> rfl

/-- Everything that a call does: it changes what stands under an id, and what a client is bound
to, just as the event says, and what whoever makes it is told is true. -/
structure Answered (before : Relay) (call : RegistryCall) (answer : Relay × RegistryEvent) :
    Prop where
  call : answer.2.call = call
  directory :
    answer.1.directory = answer.2.change?.elim before.directory before.directory.change
  bindings :
    ∀ client,
      answer.1.connectionOf client =
        (RegistryEvent.about? client answer.2.binding?).getD (before.connectionOf client)
  told : answer.2.TrueOf before

theorem Answered.find?
    {call : RegistryCall}
    {answer : Relay × RegistryEvent}
    (answered : Answered relay call answer)
    (id : String) :
    answer.1.directory.find? id =
      (RegistryEvent.about? id answer.2.change?).getD (relay.directory.find? id) := by
  rw [answered.directory]
  cases answer.2.change? with
  | none => rfl
  | some change =>
      exact (Directory.find?_change ..).trans (RegistryEvent.getD_about?_some ..).symm

theorem answered_removeIfBound
    (relay : Relay)
    (id : String)
    (connection : ConnectionId) :
    Answered relay (.removeIfBound id connection)
      (RegistryCall.answer relay (.removeIfBound id connection)) where
  call := rfl
  directory := by
    simp only [RegistryCall.answer, removeIfBound, unregisterBound, RegistryEvent.change?]
    cases relay.boundEntry? id connection <;> rfl
  bindings := by
    intro client
    simp only [RegistryCall.answer, removeIfBound, unregisterBound]
    cases relay.boundEntry? id connection <;> rfl
  told := fun _ => boundEntry?_eq_some_iff

theorem answered_enroll
    (relay : Relay)
    (id token : String)
    (connection : ConnectionId)
    (limit : Nat) :
    Answered relay (.enroll id token connection limit)
      (RegistryCall.answer relay (.enroll id token connection limit)) := by
  simp only [RegistryCall.answer, enroll]
  cases found : relay.directory.find? id with
  | some client =>
      by_cases matching : relay.tokenMatches client token = true
      · obtain ⟨held, known, -⟩ := (tokenMatches_iff ..).mp matching
        simp only [matching, ↓reduceIte]
        exact {
          call := rfl
          directory := rfl
          bindings := fun other =>
            (connectionOf_bind (List.getElem?_eq_some_iff.mp known).1 connection other).trans
              (RegistryEvent.getD_about?_some ..).symm
          told := ⟨found, matching, rfl⟩
        }
      · simp only [matching]
        exact ⟨rfl, rfl, fun _ => rfl, ⟨client, found, Bool.eq_false_iff.mpr matching⟩⟩
  | none =>
      by_cases full : limit ≤ relay.directory.size
      · simp only [full, ↓reduceIte]
        exact ⟨rfl, rfl, fun _ => rfl, ⟨found, full⟩⟩
      · simp only [full, ↓reduceIte]
        exact {
          call := rfl
          directory := rfl
          bindings := fun other =>
            (connectionOf_addClient relay ⟨id, token, some connection⟩ other).trans
              (RegistryEvent.getD_about?_some ..).symm
          told :=
            ⟨found, Nat.lt_of_not_le full, List.getElem?_eq_none (Nat.le_refl _)⟩
        }

theorem answered
    {call : RegistryCall}
    (canBeMade : call.canBeMade relay = true) :
    Answered relay call (call.answer relay) := by
  cases call with
  | create client =>
      exact {
        call := rfl
        directory := rfl
        bindings := fun other =>
          (connectionOf_addClient relay client other).trans
            (RegistryEvent.getD_about?_some ..).symm
        told := List.getElem?_eq_none (Nat.le_refl _)
      }
  | bind client connection =>
      exact {
        call := rfl
        directory := rfl
        bindings := fun other =>
          (connectionOf_bind (of_decide_eq_true canBeMade) connection other).trans
            (RegistryEvent.getD_about?_some ..).symm
        told := rfl
      }
  | set client id => exact ⟨rfl, rfl, fun _ => rfl, rfl⟩
  | removeById id =>
      refine ⟨rfl, ?_, fun _ => rfl, rfl⟩
      simp only [RegistryCall.answer, removeById, RegistryEvent.change?]
      cases found : relay.directory.find? id with
      | none => exact Directory.erase_of_free found
      | some client => rfl
  | removeIfBound id connection => exact answered_removeIfBound relay id connection
  | enroll id token connection limit => exact answered_enroll relay id token connection limit

end Relay

/-! ## Runs -/

namespace RegistryRun

open RegistryEvent

variable {run : RegistryRun}

/-- What stands under an id, and what a client is bound to, is what the history says of it last. -/
structure Faithful (run : RegistryRun) : Prop where
  ascending : Keyed.Ascending run.relay.directory.entries
  found : ∀ id, run.relay.directory.find? id = latest? change? id run.history
  bindings : ∀ client, run.relay.connectionOf client = latest? binding? client run.history

theorem act_of_canBeMade
    {call : RegistryCall}
    (canBeMade : call.canBeMade run.relay = true) :
    run.act call = ⟨(call.answer run.relay).1, run.history ++ [(call.answer run.relay).2]⟩ :=
  if_pos canBeMade

theorem faithful_start
    (settings : Settings) :
    Faithful (start settings) where
  ascending := List.Pairwise.nil
  found := fun _ => rfl
  bindings := fun _ => rfl

theorem Faithful.act
    (faithful : Faithful run)
    (call : RegistryCall) :
    Faithful (run.act call) := by
  by_cases canBeMade : call.canBeMade run.relay = true
  · rw [act_of_canBeMade canBeMade]
    have answered := Relay.answered canBeMade
    exact {
      ascending := by
        rw [answered.directory]
        cases (call.answer run.relay).2.change? with
        | none => exact faithful.ascending
        | some change => exact Directory.ascending_change faithful.ascending change
      found := by
        intro id
        rw [latest?_concat, ← faithful.found, answered.find?]
      bindings := by
        intro client
        rw [latest?_concat, ← faithful.bindings, answered.bindings]
    }
  · rw [RegistryRun.act, if_neg canBeMade]
    exact faithful

theorem Faithful.perform
    (faithful : Faithful run)
    (calls : List RegistryCall) :
    Faithful (run.perform calls) := by
  induction calls generalizing run with
  | nil => exact faithful
  | cons call later inductionHypothesis => exact inductionHypothesis (faithful.act call)

/-- A call changes nothing but what stands under the id that it is about. -/
theorem find?_act_other
    {call : RegistryCall}
    {id : String}
    (different : call.id? ≠ some id) :
    (run.act call).relay.directory.find? id = run.relay.directory.find? id := by
  by_cases canBeMade : call.canBeMade run.relay = true
  · have answered := Relay.answered canBeMade
    have silent : about? id (call.answer run.relay).2.change? = none := by
      rw [about?_eq_none_iff]
      intro entry changes
      exact different (answered.call ▸ id?_call_of_change? changes)
    rw [act_of_canBeMade canBeMade, answered.find?, silent]
    rfl
  · rw [RegistryRun.act, if_neg canBeMade]

/--
Whatever is done with an empty registry and with clients: its ids are in the order of their
octets, each once; they are those under which a client is found, and as many as are counted.  Under
an id the client is found that was stored there last, unless one has been taken away from there
since; a client is bound to the connection that it was given last, under whatever id and by
whomever.  Whoever puts a client under an id, or takes one away, is told which one was found there
just before; a client is taken away for being bound to a connection just if the one that is found
there is bound to it.  Nothing is changed under any id but the one that a call is about.
-/
theorem observers_agree_with_history
    (settings : Settings)
    (calls : List RegistryCall) :
    let run := (start settings).perform calls
    let directory := run.relay.directory
    directory.ids.Pairwise (fun first second => Utf8.precedes first second = true) ∧
      (∀ id, id ∈ directory.ids ↔ ∃ client, directory.find? id = some client) ∧
      directory.ids.length = directory.size ∧
      (directory.isEmpty = true ↔ directory.ids = []) ∧
      (∀ id client,
        directory.find? id = some client ↔
          ∃ earlier event later,
            run.history = earlier ++ event :: later ∧
              event.change? = some (id, some client) ∧
              ∀ other ∈ later, ∀ entry, other.change? ≠ some (id, entry)) ∧
      (∀ client connection,
        run.relay.connectionOf client = some connection ↔
          ∃ earlier event later,
            run.history = earlier ++ event :: later ∧
              event.binding? = some (client, some connection) ∧
              ∀ other ∈ later, ∀ binding, other.binding? ≠ some (client, binding)) ∧
      ∀ call,
        (call.canBeMade run.relay = true →
          ∃ event,
            event.call = call ∧
              (run.act call).history = run.history ++ [event] ∧
              event.TrueOf run.relay) ∧
        ∀ id,
          call.id? ≠ some id →
          (run.act call).relay.directory.find? id = directory.find? id := by
  intro run directory
  have faithful : Faithful run := (faithful_start settings).perform calls
  refine ⟨List.pairwise_map.mpr faithful.ascending, fun _ => directory.mem_ids_iff,
    directory.length_ids, directory.isEmpty_iff, fun id client => ?_, fun client connection => ?_,
    fun call => ⟨fun canBeMade => ?_, fun id different => find?_act_other different⟩⟩
  · rw [faithful.found, latest?_eq_some_iff]
  · rw [faithful.bindings, latest?_eq_some_iff]
  · have answered := Relay.answered canBeMade
    exact ⟨_, answered.call, by rw [act_of_canBeMade canBeMade], answered.told⟩

/-- One client stands under two ids, and is bound to a connection through one of them. -/
example :
    ((start {}).perform
        [.create ⟨"a", "t", none⟩, .set 0 "b", .set 0 "a", .enroll "a" "t" 5 9,
          .removeIfBound "b" 4, .removeIfBound "b" 5, .removeById "b"]).history =
      [.created 0 ⟨"a", "t", none⟩, .set 0 "b" none, .set 0 "a" none,
        .enrolled "a" "t" 5 9 (.rebound 0 none), .removedIfBound "b" 4 none,
        .removedIfBound "b" 5 (some 0), .removedById "b" none] := by
  decide

end RegistryRun

end SignalRelay
