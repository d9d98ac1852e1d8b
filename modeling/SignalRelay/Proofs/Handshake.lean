import SignalRelay.Proofs.Books
import SignalRelay.Proofs.Directory

namespace SignalRelay

/-!
# What a handshake and the end of a session do

The two operations that write in the books of a relay, each with everything that it can
do to them.
-/

namespace HandshakeParameters

/-- Credentials are what was presented. -/
theorem of_credentials?
    {parameters : HandshakeParameters}
    {credentials : Credentials}
    (complete : parameters.credentials? = some credentials) :
    parameters.id = some credentials.id ∧
      parameters.token = some credentials.token ∧
      parameters.key = some credentials.key := by
  unfold credentials? at complete
  split at complete
  · next id token key idPresent tokenPresent keyPresent =>
      cases complete
      exact ⟨(Option.filter_eq_some_iff.mp idPresent).1,
        (Option.filter_eq_some_iff.mp tokenPresent).1,
        (Option.filter_eq_some_iff.mp keyPresent).1⟩
  · cases complete

end HandshakeParameters

namespace Relay

/-! ## Clients -/

theorem client?_bind
    (relay : Relay)
    (bound other : ClientRef)
    (connection : ConnectionId) :
    (relay.bind bound connection).client? other =
      if bound = other then
        (relay.client? other).map fun held => { held with connection := some connection }
      else
        relay.client? other := by
  simp only [client?, bind, List.getElem?_modify]
  by_cases same : bound = other
  · simp [same]
  · simp [same]

theorem client?_bind_other
    {bound other : ClientRef}
    (different : other ≠ bound)
    (relay : Relay)
    (connection : ConnectionId) :
    (relay.bind bound connection).client? other = relay.client? other := by
  rw [client?_bind, if_neg (Ne.symm different)]

theorem client?_addClient
    (relay : Relay)
    (client : Client)
    (other : ClientRef) :
    (relay.addClient client).1.client? other =
      if relay.clients.length = other then some client else relay.client? other := by
  change (relay.clients ++ [client])[other]? = _
  split
  · next isNew =>
      subst isNew
      exact List.getElem?_concat_length
  · next different =>
      rcases Nat.lt_or_gt_of_ne different with later | earlier
      · have outOfBounds : (relay.clients ++ [client]).length ≤ other := by
          rw [List.length_append]
          exact later
        rw [List.getElem?_eq_none outOfBounds, client?,
          List.getElem?_eq_none (Nat.le_of_lt later)]
      · exact List.getElem?_append_left earlier

/-- The state after a new client was registered under its id. -/
def withNewClient (relay : Relay) (client : Client) : Relay :=
  (relay.addClient client).1.register client.id relay.clients.length

theorem client?_withNewClient_of_some
    {relay : Relay}
    {reference : ClientRef}
    {held : Client}
    (known : relay.client? reference = some held)
    (client : Client) :
    (relay.withNewClient client).client? reference = some held := by
  have inBounds : reference < relay.clients.length :=
    (List.getElem?_eq_some_iff.mp known).1
  refine (client?_addClient relay client reference).trans ?_
  rw [if_neg (Nat.ne_of_gt inBounds), known]

theorem client?_withNewClient_new
    (relay : Relay)
    (client : Client) :
    (relay.withNewClient client).client? relay.clients.length = some client :=
  (client?_addClient relay client _).trans (if_pos rfl)

theorem tokenMatches_iff
    (relay : Relay)
    (reference : ClientRef)
    (token : String) :
    relay.tokenMatches reference token = true ↔
      ∃ client, relay.client? reference = some client ∧ client.token = token := by
  simp [tokenMatches, Option.any_eq_true]

theorem clientId_of_client?
    {relay : Relay}
    {reference : ClientRef}
    {client : Client}
    (known : relay.client? reference = some client) :
    relay.clientId reference = client.id := by
  simp [clientId, known]

theorem connectionOf_of_client?
    {relay : Relay}
    {reference : ClientRef}
    {client : Client}
    (known : relay.client? reference = some client) :
    relay.connectionOf reference = client.connection := by
  simp [connectionOf, known]

/-! ## Handshakes -/

/--
Everything that a handshake can do: it gives no client and changes nothing; it binds the
client under the id that presents the token of that client; or it registers a new client
under an id that nobody has, if there is room.
-/
inductive HandshakeResult
    (relay : Relay)
    (parameters : HandshakeParameters)
    (connection : ConnectionId) :
    Relay × HandshakeOutcome → Prop where
  | refused
      {outcome : HandshakeOutcome}
      (clientless : outcome.client? = none) :
      HandshakeResult relay parameters connection (relay, outcome)
  | rebound
      {id : String}
      {reference : ClientRef}
      {client : Client}
      (presentsId : parameters.id = some id)
      (presentsToken : parameters.token = some client.token)
      (registered : relay.directory.find? id = some reference)
      (known : relay.client? reference = some client) :
      HandshakeResult relay parameters connection
        (relay.bind reference connection, .reconnected reference)
  | registered
      {id token : String}
      (presentsId : parameters.id = some id)
      (presentsToken : parameters.token = some token)
      (unknown : relay.directory.find? id = none)
      (room : relay.directory.size < relay.settings.clientLimit) :
      HandshakeResult relay parameters connection
        (relay.withNewClient ⟨id, token, some connection⟩,
          .registered relay.clients.length)

theorem enroll_result
    {relay : Relay}
    {parameters : HandshakeParameters}
    {id token : String}
    (presentsId : parameters.id = some id)
    (presentsToken : parameters.token = some token)
    (connection : ConnectionId) :
    HandshakeResult relay parameters connection
      ((relay.enroll id token connection relay.settings.clientLimit).1,
        (relay.enroll id token connection relay.settings.clientLimit).2.outcome) := by
  unfold enroll
  cases registered : relay.directory.find? id with
  | some reference =>
      by_cases matching : relay.tokenMatches reference token
      · obtain ⟨client, known, sameToken⟩ :=
          (tokenMatches_iff relay reference token).mp matching
        subst sameToken
        simp only [matching, ↓reduceIte]
        exact .rebound presentsId presentsToken registered known
      · simp only [matching]
        exact .refused rfl
  | none =>
      by_cases full : relay.settings.clientLimit ≤ relay.directory.size
      · simp only [full, ↓reduceIte]
        exact .refused rfl
      · simp only [full, ↓reduceIte]
        exact .registered presentsId presentsToken registered (Nat.lt_of_not_le full)

/-- A handshake does one of the things that it can do. -/
theorem handshake_result
    (relay : Relay)
    (parameters : HandshakeParameters)
    (connection : ConnectionId) :
    HandshakeResult relay parameters connection
      (relay.handshake parameters connection) := by
  unfold handshake
  split
  · exact .refused rfl
  · next credentials complete =>
      obtain ⟨presentsId, presentsToken, -⟩ :=
        HandshakeParameters.of_credentials? complete
      split
      · exact enroll_result presentsId presentsToken connection
      · exact .refused rfl

/-! ## Ends of sessions -/

theorem boundEntry?_eq_some_iff
    {relay : Relay}
    {id : String}
    {connection : ConnectionId}
    {client : ClientRef} :
    relay.boundEntry? id connection = some client ↔
      relay.directory.find? id = some client ∧ relay.connectionOf client = some connection := by
  unfold boundEntry?
  rw [Option.filter_eq_some_iff, beq_iff_eq]

theorem boundEntry?_isSome_iff
    (relay : Relay)
    (id : String)
    (connection : ConnectionId) :
    (relay.boundEntry? id connection).isSome ↔
      ∃ reference,
        relay.directory.find? id = some reference ∧
          relay.connectionOf reference = some connection := by
  simp only [Option.isSome_iff_exists, boundEntry?_eq_some_iff]

/-- The end of a session whose connection is bound takes its client's id away. -/
theorem endSession_of_bound
    {relay : Relay}
    {session : Session}
    (bound :
      (relay.boundEntry? (relay.clientId session.client) session.connection).isSome) :
    SameBooks (relay.unregister (relay.clientId session.client))
      (relay.endSession session).1 := by
  obtain ⟨reference, found⟩ := Option.isSome_iff_exists.mp bound
  simp only [endSession, unregisterBound, found]
  exact sameBooks_closeConnection ..

/-- The end of a session whose connection is not bound changes nothing in the books. -/
theorem endSession_of_not_bound
    {relay : Relay}
    {session : Session}
    (unbound :
      ¬ (relay.boundEntry? (relay.clientId session.client) session.connection).isSome) :
    SameBooks relay (relay.endSession session).1 := by
  have notFound :
      relay.boundEntry? (relay.clientId session.client) session.connection = none := by
    simpa using unbound
  simp only [endSession, unregisterBound, notFound]
  exact sameBooks_closeConnection ..

theorem endSession_clients
    (relay : Relay)
    (session : Session) :
    (relay.endSession session).1.clients = relay.clients ∧
      (relay.endSession session).1.connections.length = relay.connections.length := by
  by_cases bound :
      (relay.boundEntry? (relay.clientId session.client) session.connection).isSome
  · exact ⟨(endSession_of_bound bound).clients, (endSession_of_bound bound).connections⟩
  · exact ⟨(endSession_of_not_bound bound).clients,
      (endSession_of_not_bound bound).connections⟩

/-- After the end of a session an id is free only if it was, or if it was the own id of
the session's client and bound to the session's connection. -/
theorem find?_endSession
    (relay : Relay)
    (session : Session)
    (id : String) :
    (relay.endSession session).1.directory.find? id =
      if id = relay.clientId session.client ∧
          (relay.boundEntry? id session.connection).isSome then
        none
      else
        relay.directory.find? id := by
  by_cases bound :
      (relay.boundEntry? (relay.clientId session.client) session.connection).isSome
  · rw [(endSession_of_bound bound).directory]
    change (relay.directory.erase (relay.clientId session.client)).find? id = _
    by_cases own : id = relay.clientId session.client
    · subst own
      simp [bound]
    · simp [own, Directory.find?_erase_other own]
  · rw [(endSession_of_not_bound bound).directory, if_neg]
    rintro ⟨rfl, isBound⟩
    exact bound isBound

end Relay

end SignalRelay
