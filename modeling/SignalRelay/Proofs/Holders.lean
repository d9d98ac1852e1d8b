import SignalRelay.Proofs.Occupancy

namespace SignalRelay

/-!
# What stands under an id

The directory holds references to clients.  Seen from outside, what counts is the client that
stands under an id: its token and its connection.  A handshake changes what stands under the id
that it presents and under no other, and how it ends depends on that, on whether there is room,
and on nothing else.  The end of a session can only take away what stands under one id.
-/

/-- What a handshake is refused for before anybody looks for its id; or its credentials. -/
def Settings.examine (settings : Settings) (parameters : HandshakeParameters) :
    Except RefusalCode Credentials :=
  match parameters.credentials? with
  | none => .error .invalidParameters
  | some credentials =>
      if settings.keyMatches credentials.key then
        .ok credentials
      else
        .error .invalidKey

/-- Credentials that pass are what was presented. -/
theorem Settings.of_examine
    {settings : Settings}
    {parameters : HandshakeParameters}
    {credentials : Credentials}
    (passed : settings.examine parameters = .ok credentials) :
    parameters.id = some credentials.id ∧ parameters.token = some credentials.token := by
  unfold examine at passed
  split at passed
  · cases passed
  · next found complete =>
      split at passed
      · cases passed
        obtain ⟨presentsId, presentsToken, -⟩ :=
          HandshakeParameters.of_credentials? complete
        exact ⟨presentsId, presentsToken⟩
      · cases passed

namespace Relay

/-- The client that stands under an id. -/
def holder? (relay : Relay) (id : String) : Option Client :=
  (relay.directory.find? id).bind relay.client?

theorem holder?_of_find?
    {relay : Relay}
    {id : String}
    {reference : ClientRef}
    (found : relay.directory.find? id = some reference) :
    relay.holder? id = relay.client? reference := by
  simp [holder?, found]

theorem holder?_of_free
    {relay : Relay}
    {id : String}
    (free : relay.directory.find? id = none) :
    relay.holder? id = none := by
  simp [holder?, free]

theorem SameBooks.holder?
    {before after : Relay}
    (same : SameBooks before after)
    (id : String) :
    after.holder? id = before.holder? id := by
  simp only [Relay.holder?, same.directory]
  exact Option.bind_congr fun reference _ => same.client? reference

/-- A handshake is examined, and then its id is asked for. -/
theorem handshake_eq
    (relay : Relay)
    (parameters : HandshakeParameters)
    (connection : ConnectionId) :
    relay.handshake parameters connection =
      match relay.settings.examine parameters with
      | .error code => (relay, .rejected code)
      | .ok credentials =>
          ((relay.enroll credentials.id credentials.token connection
              relay.settings.clientLimit).1,
            (relay.enroll credentials.id credentials.token connection
              relay.settings.clientLimit).2.outcome) := by
  unfold handshake Settings.examine
  cases parameters.credentials? with
  | none =>
      rfl
  | some credentials =>
      by_cases matching : relay.settings.keyMatches credentials.key
      · simp [matching]
      · simp [matching]

/-- A connection is bound under an id exactly if the client that stands there is bound to it. -/
theorem boundEntry?_isSome_iff_holder?
    (relay : Relay)
    (id : String)
    (connection : ConnectionId) :
    (relay.boundEntry? id connection).isSome ↔
      (relay.holder? id).bind (·.connection) = some connection := by
  rw [boundEntry?_isSome_iff, holder?, Option.bind_assoc,
    Option.bind_eq_some_iff]
  rfl

/-- Every entry of the directory stands for a client that has the id as its own. -/
def OwnIds (relay : Relay) : Prop :=
  ∀ id reference,
    relay.directory.find? id = some reference →
    ∃ client, relay.client? reference = some client ∧ client.id = id

namespace OwnIds

variable {relay : Relay}

/-- Binding the client under one id again leaves what stands under the others. -/
theorem holder?_bind_other
    (own : relay.OwnIds)
    {id other : String}
    {reference : ClientRef}
    (found : relay.directory.find? id = some reference)
    (different : other ≠ id)
    (connection : ConnectionId) :
    (relay.bind reference connection).holder? other = relay.holder? other := by
  change (relay.directory.find? other).bind _ = _
  cases foundOther : relay.directory.find? other with
  | none =>
      exact (holder?_of_free foundOther).symm
  | some otherReference =>
      -- One client under both ids would have two own ids.
      have apart : otherReference ≠ reference := by
        rintro rfl
        obtain ⟨holder, stands, holderId⟩ := own _ _ found
        obtain ⟨otherHolder, otherStands, otherId⟩ := own _ _ foundOther
        rw [stands] at otherStands
        cases otherStands
        exact different (otherId.symm.trans holderId)
      rw [Option.bind_some, client?_bind_other apart, holder?_of_find? foundOther]

/-- Registering a new client leaves what stands under the other ids. -/
theorem holder?_withNewClient_other
    (own : relay.OwnIds)
    {client : Client}
    {other : String}
    (different : other ≠ client.id) :
    (relay.withNewClient client).holder? other = relay.holder? other := by
  change ((relay.directory.insert client.id relay.clients.length).find? other).bind _ = _
  rw [Directory.find?_insert_other different]
  cases found : relay.directory.find? other with
  | none =>
      exact (holder?_of_free found).symm
  | some reference =>
      obtain ⟨held, stands, -⟩ := own _ _ found
      rw [Option.bind_some, client?_withNewClient_of_some stands, holder?_of_find? found, stands]

end OwnIds

end Relay

namespace Server

/--
Everything that a handshake can do to what stands under ids, and how it then ends: it fails the
examination; it presents the token of the client that stands under its id, and is bound to it,
or another token, and is not; or nothing stands there, and it is registered if there is room.
-/
inductive Enrolled
    (server : Server)
    (parameters : HandshakeParameters)
    (after : Relay) :
    HandshakeOutcome → Prop where
  | unfit
      {code : RefusalCode}
      (failed : server.relay.settings.examine parameters = .error code)
      (directory : after.directory = server.relay.directory)
      (kept : ∀ id, after.holder? id = server.relay.holder? id) :
      Enrolled server parameters after (.rejected code)
  | rebound
      {credentials : Credentials}
      {reference : ClientRef}
      {client : Client}
      (passed : server.relay.settings.examine parameters = .ok credentials)
      (held : server.relay.holder? credentials.id = some client)
      (own : client.token = credentials.token)
      (directory : after.directory = server.relay.directory)
      (bound :
        after.holder? credentials.id =
          some { client with connection := some server.nextConnection })
      (kept : ∀ id, id ≠ credentials.id → after.holder? id = server.relay.holder? id) :
      Enrolled server parameters after (.reconnected reference)
  | taken
      {credentials : Credentials}
      {client : Client}
      (passed : server.relay.settings.examine parameters = .ok credentials)
      (held : server.relay.holder? credentials.id = some client)
      (foreign : client.token ≠ credentials.token)
      (directory : after.directory = server.relay.directory)
      (kept : ∀ id, after.holder? id = server.relay.holder? id) :
      Enrolled server parameters after .idTaken
  | registered
      {credentials : Credentials}
      {reference : ClientRef}
      (passed : server.relay.settings.examine parameters = .ok credentials)
      (free : server.relay.holder? credentials.id = none)
      (room : server.relay.directory.size < server.relay.settings.clientLimit)
      (directory :
        after.directory = server.relay.directory.insert credentials.id reference)
      (entered :
        after.holder? credentials.id =
          some ⟨credentials.id, credentials.token, some server.nextConnection⟩)
      (kept : ∀ id, id ≠ credentials.id → after.holder? id = server.relay.holder? id) :
      Enrolled server parameters after (.registered reference)
  | crowded
      {credentials : Credentials}
      (passed : server.relay.settings.examine parameters = .ok credentials)
      (free : server.relay.holder? credentials.id = none)
      (full : server.relay.settings.clientLimit ≤ server.relay.directory.size)
      (directory : after.directory = server.relay.directory)
      (kept : ∀ id, after.holder? id = server.relay.holder? id) :
      Enrolled server parameters after (.rejected .limitExceeded)

variable {server : Server}

theorem Coherent.ownIds
    (coherent : Coherent server) :
    server.relay.OwnIds := by
  intro id reference found
  obtain ⟨client, _, _, _, _, tenure⟩ := coherent.held id reference found
  exact ⟨client, tenure.known, tenure.ownId⟩

/-- What is registered is a client with the id as its own. -/
theorem Coherent.holder?_of_find?
    (coherent : Coherent server)
    {id : String}
    {reference : ClientRef}
    (found : server.relay.directory.find? id = some reference) :
    ∃ client, server.relay.holder? id = some client ∧ client.id = id := by
  obtain ⟨client, known, ownId⟩ := coherent.ownIds id reference found
  exact ⟨client, (Relay.holder?_of_find? found).trans known, ownId⟩

/-- Nothing stands under an id exactly if it is free. -/
theorem Coherent.holder?_eq_none_iff
    (coherent : Coherent server)
    {id : String} :
    server.relay.holder? id = none ↔ server.relay.directory.find? id = none := by
  constructor
  · intro nothing
    cases found : server.relay.directory.find? id with
    | none => rfl
    | some reference =>
        obtain ⟨client, stands, -⟩ := coherent.holder?_of_find? found
        rw [stands] at nothing
        cases nothing
  · exact Relay.holder?_of_free

/-- Somebody stands exactly under the ids of the directory. -/
theorem Coherent.holder?_eq_none_iff_not_mem
    (coherent : Coherent server)
    {id : String} :
    server.relay.holder? id = none ↔ id ∉ server.relay.directory.ids :=
  coherent.holder?_eq_none_iff.trans Directory.find?_eq_none_iff

/-- Who stands under an id has it as its own. -/
theorem Coherent.id_of_holder?
    (coherent : Coherent server)
    {id : String}
    {client : Client}
    (held : server.relay.holder? id = some client) :
    client.id = id := by
  obtain ⟨reference, found, -⟩ := Option.bind_eq_some_iff.mp held
  obtain ⟨holder, stands, own⟩ := coherent.holder?_of_find? found
  rw [held] at stands
  cases stands
  exact own

/-- A handshake does one of the things that it can do. -/
theorem Coherent.enrolled
    (coherent : Coherent server)
    (address : Option SocketAddress)
    (parameters : HandshakeParameters) :
    ∃ outcome,
      (server.dial address parameters).meetings =
          server.meetings ++ [⟨server.nextConnection, parameters, outcome⟩] ∧
        Enrolled server parameters (server.dial address parameters).relay outcome := by
  -- Opening the connection changes nothing that entries are made of.
  let opened := (server.relay.openConnection address).1
  refine ⟨(opened.handshake parameters server.nextConnection).2,
    by simp [dial, met, Relay.meet, Happening.meeting?, opened], ?_⟩
  change Enrolled server parameters (opened.handshake parameters server.nextConnection).1 _
  rw [Relay.handshake_eq]
  cases examined : opened.settings.examine parameters with
  | error code =>
      exact .unfit examined rfl fun _ => rfl
  | ok credentials =>
      simp only [Relay.enroll]
      cases found : opened.directory.find? credentials.id with
      | some reference =>
          obtain ⟨client, _, _, _, _, tenure⟩ := coherent.held credentials.id reference found
          have stands : server.relay.holder? credentials.id = some client :=
            (Relay.holder?_of_find? found).trans tenure.known
          by_cases own : client.token = credentials.token
          · have matching : opened.tokenMatches reference credentials.token = true :=
              (Relay.tokenMatches_iff ..).mpr ⟨client, tenure.known, own⟩
            simp only [matching, ↓reduceIte]
            refine .rebound examined stands own rfl ?_ ?_
            · have foundNow :
                  (opened.bind reference server.nextConnection).directory.find?
                    credentials.id = some reference :=
                found
              rw [Relay.holder?_of_find? foundNow, Relay.client?_bind, if_pos rfl]
              exact congrArg (Option.map _) tenure.known
            · intro other different
              exact coherent.ownIds.holder?_bind_other found different server.nextConnection
          · have notMatching : ¬opened.tokenMatches reference credentials.token = true := by
              intro matching
              obtain ⟨holder, known, same⟩ := (Relay.tokenMatches_iff ..).mp matching
              exact own (Option.some.inj (known.symm.trans tenure.known) ▸ same)
            simp only [notMatching]
            exact .taken examined stands own rfl fun _ => rfl
      | none =>
          have free : server.relay.holder? credentials.id = none :=
            Relay.holder?_of_free found
          by_cases full : opened.settings.clientLimit ≤ opened.directory.size
          · simp only [full, ↓reduceIte]
            exact .crowded examined free full rfl fun _ => rfl
          · let newcomer : Client :=
              ⟨credentials.id, credentials.token, some server.nextConnection⟩
            simp only [full, ↓reduceIte]
            refine .registered examined free (Nat.lt_of_not_le full) rfl ?_ ?_
            · refine (Relay.holder?_of_find? (Directory.find?_insert_same ..)).trans ?_
              exact Relay.client?_withNewClient_new opened _
            · intro other different
              change other ≠ newcomer.id at different
              exact coherent.ownIds.holder?_withNewClient_other different

/-! ## Ends of sessions -/

/-- The end of a session takes away what stands under the id that its handshake presented, if
that is bound to its connection, and tells whether it did. -/
theorem Coherent.left
    (coherent : Coherent server)
    {connection : ConnectionId}
    {session : Session}
    (running : server.session? connection = some session) :
    ∃ meeting ∈ server.meetings, ∃ id,
      meeting.connection = connection ∧
        meeting.parameters.id = some id ∧
        (∀ other,
          (server.finish session).relay.holder? other =
            if other = id ∧
                (server.relay.holder? id).bind (·.connection) = some connection then
              none
            else
              server.relay.holder? other) ∧
        (server.finish session).journal.events =
          server.journal.events ++
            [.disconnected id connection
              (decide ((server.relay.holder? id).bind (·.connection) = some connection))] := by
  obtain ⟨own, -, -⟩ := Server.of_session? running
  subst own
  obtain ⟨client, meeting, known, success, sameConnection, -, -⟩ :=
    coherent.of_session? running
  obtain ⟨member, presents, -⟩ := mem_successes.mp success
  refine ⟨meeting, member, client.id, sameConnection, presents, ?_, ?_⟩
  · intro other
    change ((server.relay.endSession session).1.directory.find? other).bind
      (server.relay.endSession session).1.client? = _
    have sameClient :
        (server.relay.endSession session).1.client? = server.relay.client? := by
      funext reference
      rw [Relay.client?, Relay.client?, (Relay.endSession_clients server.relay session).1]
    rw [sameClient, Relay.find?_endSession, Relay.clientId_of_client? known]
    by_cases taken :
        other = client.id ∧
          (server.relay.holder? client.id).bind (·.connection) = some session.connection
    · rw [if_pos taken, if_pos]
      · rfl
      · rw [taken.1]
        exact ⟨rfl, (Relay.boundEntry?_isSome_iff_holder? ..).mpr taken.2⟩
    · rw [if_neg taken, if_neg]
      · rfl
      · rintro ⟨rfl, bound⟩
        exact taken ⟨rfl, (Relay.boundEntry?_isSome_iff_holder? ..).mp bound⟩
  · change Journal.events (server.journal ++ (server.relay.endSession session).2) = _
    rw [Journal.events, List.filterMap_append]
    congr 1
    simp only [Relay.endSession, Relay.clientId_of_client? known]
    by_cases bound :
        (server.relay.holder? client.id).bind (·.connection) = some session.connection
    · have taken := (Relay.boundEntry?_isSome_iff_holder? ..).mpr bound
      simp [taken, bound, List.filterMap_cons, JournalEntry.event?]
    · have notTaken := mt (Relay.boundEntry?_isSome_iff_holder? ..).mp bound
      simp [notTaken, bound, JournalEntry.event?]

end Server

end SignalRelay
