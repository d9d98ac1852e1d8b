import SignalRelay.Proofs.Holders

namespace SignalRelay

/-!
# How a handshake is decided

What a connection presents is looked at in a fixed order: whether it is complete, whether its
key is the right one, who stands under its id, and for an unknown id whether there is room.  The
decision depends on the relay as it is found, whatever has led to it.  All that is asked for is
that an entry of the directory stands for a client which has the id of the entry as its own.

A handshake then changes nothing, the connection of one client, or the directory by one entry.
-/

namespace HandshakeParameters

/-- Credentials are presented in full. -/
structure Presents (parameters : HandshakeParameters) (credentials : Credentials) : Prop where
  id : parameters.id = some credentials.id
  token : parameters.token = some credentials.token
  key : parameters.key = some credentials.key
  nonempty : "" ∉ [credentials.id, credentials.token, credentials.key]

/-- The id, the token or the key is missing or empty. -/
def Lacks (parameters : HandshakeParameters) : Prop :=
  ∃ parameter ∈ [parameters.id, parameters.token, parameters.key],
    parameter = none ∨ parameter = some ""

variable {parameters : HandshakeParameters} {credentials : Credentials}

theorem present?_eq_none_iff
    {parameter : Option String} :
    present? parameter = none ↔ parameter = none ∨ parameter = some "" := by
  cases parameter with
  | none => simp [present?]
  | some text => simp [present?]

theorem present?_eq_some_iff
    {parameter : Option String}
    {text : String} :
    present? parameter = some text ↔ parameter = some text ∧ text ≠ "" := by
  simp [present?, Option.filter_eq_some_iff]

/-- Credentials are read from parameters exactly if they are presented in full. -/
theorem credentials?_eq_some_iff :
    parameters.credentials? = some credentials ↔ parameters.Presents credentials := by
  constructor
  · intro complete
    unfold credentials? at complete
    split at complete
    · next id token key idPresent tokenPresent keyPresent =>
        cases complete
        obtain ⟨sameId, idNonempty⟩ := present?_eq_some_iff.mp idPresent
        obtain ⟨sameToken, tokenNonempty⟩ := present?_eq_some_iff.mp tokenPresent
        obtain ⟨sameKey, keyNonempty⟩ := present?_eq_some_iff.mp keyPresent
        refine ⟨sameId, sameToken, sameKey, ?_⟩
        simp [Ne.symm idNonempty, Ne.symm tokenNonempty, Ne.symm keyNonempty]
    · cases complete
  · rintro ⟨sameId, sameToken, sameKey, nonempty⟩
    simp only [List.mem_cons, List.not_mem_nil, or_false, not_or] at nonempty
    obtain ⟨idNonempty, tokenNonempty, keyNonempty⟩ := nonempty
    have idPresent := present?_eq_some_iff.mpr ⟨sameId, Ne.symm idNonempty⟩
    have tokenPresent := present?_eq_some_iff.mpr ⟨sameToken, Ne.symm tokenNonempty⟩
    have keyPresent := present?_eq_some_iff.mpr ⟨sameKey, Ne.symm keyNonempty⟩
    simp [credentials?, idPresent, tokenPresent, keyPresent]

/-- No credentials are read from parameters exactly if something of them is missing. -/
theorem credentials?_eq_none_iff :
    parameters.credentials? = none ↔ parameters.Lacks := by
  simp only [Lacks, List.mem_cons, List.not_mem_nil, or_false, exists_eq_or_imp,
    exists_eq_left, ← present?_eq_none_iff]
  unfold credentials?
  cases present? parameters.id with
  | none => simp
  | some id =>
      cases present? parameters.token with
      | none => simp
      | some token =>
          cases present? parameters.key with
          | none => simp
          | some key => simp

end HandshakeParameters

namespace Relay

/-- How a handshake is decided by what it presents and by what the relay holds. -/
inductive Decides (relay : Relay) (parameters : HandshakeParameters) :
    HandshakeOutcome → Prop where
  | incomplete
      (lacks : parameters.Lacks) :
      Decides relay parameters (.rejected .invalidParameters)
  | foreignKey
      {credentials : Credentials}
      (presents : parameters.Presents credentials)
      (foreign : credentials.key ≠ relay.settings.key) :
      Decides relay parameters (.rejected .invalidKey)
  | known
      {credentials : Credentials}
      {reference : ClientRef}
      {client : Client}
      (presents : parameters.Presents credentials)
      (keyed : credentials.key = relay.settings.key)
      (found : relay.directory.find? credentials.id = some reference)
      (stands : relay.client? reference = some client)
      (own : client.token = credentials.token) :
      Decides relay parameters (.reconnected reference)
  | taken
      {credentials : Credentials}
      {reference : ClientRef}
      {client : Client}
      (presents : parameters.Presents credentials)
      (keyed : credentials.key = relay.settings.key)
      (found : relay.directory.find? credentials.id = some reference)
      (stands : relay.client? reference = some client)
      (foreign : client.token ≠ credentials.token) :
      Decides relay parameters .idTaken
  | crowded
      {credentials : Credentials}
      (presents : parameters.Presents credentials)
      (keyed : credentials.key = relay.settings.key)
      (free : relay.directory.find? credentials.id = none)
      (full : relay.settings.clientLimit ≤ relay.directory.size) :
      Decides relay parameters (.rejected .limitExceeded)
  | admitted
      {credentials : Credentials}
      (presents : parameters.Presents credentials)
      (keyed : credentials.key = relay.settings.key)
      (free : relay.directory.find? credentials.id = none)
      (room : relay.directory.size < relay.settings.clientLimit) :
      Decides relay parameters (.registered relay.clients.length)

/-- Only the connection of one client is another one; it is the client under a given id. -/
structure RebindsOnly
    (before : Relay)
    (id : String)
    (reference : ClientRef)
    (connection : ConnectionId)
    (after : Relay) : Prop where
  settings : after.settings = before.settings
  directory : after.directory = before.directory
  connections : after.connections = before.connections
  found : before.directory.find? id = some reference
  bound :
    ∃ client,
      before.client? reference = some client ∧
        after.client? reference = some { client with connection := some connection }
  clients : ∀ other, other ≠ reference → after.client? other = before.client? other
  holders : ∀ other, other ≠ id → after.holder? other = before.holder? other

/-- One entry was added, for a client that there was not; nothing else changed. -/
structure AddsOnly
    (before : Relay)
    (client : Client)
    (reference : ClientRef)
    (after : Relay) : Prop where
  settings : after.settings = before.settings
  connections : after.connections = before.connections
  entries :
    after.directory.entries.Perm ((client.id, reference) :: before.directory.entries)
  found : after.directory.find? client.id = some reference
  unknown : before.client? reference = none
  entered : after.client? reference = some client
  clients : ∀ other, other ≠ reference → after.client? other = before.client? other
  holders : ∀ other, other ≠ client.id → after.holder? other = before.holder? other

variable
  {relay : Relay}
  {parameters : HandshakeParameters}
  {outcome : HandshakeOutcome}

/-! ## Decisions -/

/-- A handshake ends as it is decided. -/
theorem Decides.outcome_eq
    (decided : relay.Decides parameters outcome)
    (connection : ConnectionId) :
    (relay.handshake parameters connection).2 = outcome := by
  unfold handshake
  cases decided with
  | incomplete lacks =>
      rw [HandshakeParameters.credentials?_eq_none_iff.mpr lacks]
  | foreignKey presents foreign =>
      rw [HandshakeParameters.credentials?_eq_some_iff.mpr presents]
      simp [Settings.keyMatches, Ne.symm foreign]
  | known presents keyed found stands own =>
      rw [HandshakeParameters.credentials?_eq_some_iff.mpr presents]
      have matching := (tokenMatches_iff ..).mpr ⟨_, stands, own⟩
      simp [Settings.keyMatches, keyed, enroll, found, matching, Admission.outcome]
  | taken presents keyed found stands foreign =>
      rw [HandshakeParameters.credentials?_eq_some_iff.mpr presents]
      simp [Settings.keyMatches, keyed, enroll, found, tokenMatches, stands, foreign,
        Admission.outcome]
  | crowded presents keyed free full =>
      rw [HandshakeParameters.credentials?_eq_some_iff.mpr presents]
      simp [Settings.keyMatches, keyed, enroll, free, full, Admission.outcome]
  | admitted presents keyed free room =>
      rw [HandshakeParameters.credentials?_eq_some_iff.mpr presents]
      simp [Settings.keyMatches, keyed, enroll, free, Nat.not_le_of_lt room, addClient,
        Admission.outcome]

/-- Every handshake is decided one way or another. -/
theorem OwnIds.exists_decides
    (own : relay.OwnIds)
    (parameters : HandshakeParameters) :
    ∃ outcome, relay.Decides parameters outcome := by
  cases read : parameters.credentials? with
  | none =>
      exact ⟨_, .incomplete (HandshakeParameters.credentials?_eq_none_iff.mp read)⟩
  | some credentials =>
      have presents := HandshakeParameters.credentials?_eq_some_iff.mp read
      by_cases keyed : credentials.key = relay.settings.key
      case neg =>
        exact ⟨_, .foreignKey presents keyed⟩
      cases found : relay.directory.find? credentials.id with
      | some reference =>
          obtain ⟨client, stands, -⟩ := own _ _ found
          by_cases sameToken : client.token = credentials.token
          · exact ⟨_, .known presents keyed found stands sameToken⟩
          · exact ⟨_, .taken presents keyed found stands sameToken⟩
      | none =>
          rcases Nat.lt_or_ge relay.directory.size relay.settings.clientLimit with room | full
          · exact ⟨_, .admitted presents keyed found room⟩
          · exact ⟨_, .crowded presents keyed found full⟩

theorem OwnIds.outcome_eq_iff
    (own : relay.OwnIds)
    (connection : ConnectionId) :
    (relay.handshake parameters connection).2 = outcome ↔
      relay.Decides parameters outcome := by
  constructor
  · rintro rfl
    obtain ⟨outcome, decided⟩ := own.exists_decides parameters
    exact decided.outcome_eq connection ▸ decided
  · exact fun decided => decided.outcome_eq connection

/-! ## Changes -/

/-- Binding the client under an id again leaves what stands under the others. -/
theorem OwnIds.rebindsOnly
    (own : relay.OwnIds)
    {id : String}
    {reference : ClientRef}
    {client : Client}
    (found : relay.directory.find? id = some reference)
    (known : relay.client? reference = some client)
    (connection : ConnectionId) :
    relay.RebindsOnly id reference connection (relay.bind reference connection) where
  settings := rfl
  directory := rfl
  connections := rfl
  found := found
  bound := ⟨client, known, by rw [client?_bind, if_pos rfl, known, Option.map_some]⟩
  clients := fun _ different => client?_bind_other different relay connection
  holders := fun _ different => own.holder?_bind_other found different connection

theorem client?_withNewClient_other
    {other : ClientRef}
    (different : other ≠ relay.clients.length)
    (client : Client) :
    (relay.withNewClient client).client? other = relay.client? other :=
  (client?_addClient relay client other).trans (if_neg (Ne.symm different))

/-- Registering a client under a free id adds the one entry. -/
theorem OwnIds.addsOnly
    (own : relay.OwnIds)
    {client : Client}
    (free : relay.directory.find? client.id = none) :
    relay.AddsOnly client relay.clients.length (relay.withNewClient client) where
  settings := rfl
  connections := rfl
  entries := Keyed.insert_perm (Directory.find?_eq_none_iff.mp free) relay.clients.length
  found := Directory.find?_insert_same ..
  unknown := List.getElem?_eq_none (Nat.le_refl _)
  entered := client?_withNewClient_new ..
  clients := fun _ different => client?_withNewClient_other different client
  holders := fun _ different => own.holder?_withNewClient_other different

/--
A handshake is decided by the first of these that applies: it lacks a parameter; its key is not
the right one; its id is known, under its token or under another; its id is unknown, and there
is no room or there is.  The limit does not count for a known id.  A refusal changes nothing.  A
reconnection changes the connection of the client that it returns, which is the one under the
id, and nothing else.  A registration adds one entry, which is bound to the connection, and
changes nothing else.
-/
theorem handshake_decided
    (own : relay.OwnIds)
    (parameters : HandshakeParameters)
    (connection : ConnectionId) :
    ∃ after outcome,
      relay.handshake parameters connection = (after, outcome) ∧
        (∀ ending, outcome = ending ↔ relay.Decides parameters ending) ∧
        (outcome.client? = none → after = relay) ∧
        (∀ reference,
          outcome = .reconnected reference →
          ∃ id,
            parameters.id = some id ∧ relay.RebindsOnly id reference connection after) ∧
        ∀ reference,
          outcome = .registered reference →
          ∃ id token,
            parameters.id = some id ∧
              parameters.token = some token ∧
              relay.AddsOnly ⟨id, token, some connection⟩ reference after := by
  have decided (ending : HandshakeOutcome) :
      (relay.handshake parameters connection).2 = ending ↔ relay.Decides parameters ending :=
    own.outcome_eq_iff connection
  have result := relay.handshake_result parameters connection
  generalize relay.handshake parameters connection = shaken at decided result
  refine ⟨shaken.1, shaken.2, rfl, decided, ?_⟩
  clear decided
  cases result with
  | refused clientless =>
      refine ⟨fun _ => rfl, ?_, ?_⟩
      · rintro reference rfl
        cases clientless
      · rintro reference rfl
        cases clientless
  | rebound presentsId presentsToken registered known =>
      refine ⟨?_, ?_, ?_⟩
      · intro clientless
        cases clientless
      · intro other same
        cases same
        exact ⟨_, presentsId, own.rebindsOnly registered known connection⟩
      · intro other same
        cases same
  | registered presentsId presentsToken unknown room =>
      refine ⟨?_, ?_, ?_⟩
      · intro clientless
        cases clientless
      · intro other same
        cases same
      · intro other same
        cases same
        exact ⟨_, _, presentsId, presentsToken, own.addsOnly unknown⟩

/-- Where there is no room for anybody else, a client may still reconnect. -/
theorem handshake_decided_at_limit :
    ∃ relay after : Relay,
      relay.OwnIds ∧
        relay.settings.clientLimit ≤ relay.directory.size ∧
        relay.handshake ⟨some "a", some "t", some "peerjs"⟩ 1 = (after, .reconnected 0) ∧
        after.client? 0 = some ⟨"a", "t", some 1⟩ := by
  let relay : Relay :=
    ⟨{ clientLimit := 1 }, [⟨"a", "t", some 0⟩], [], ⟨[("a", 0)]⟩⟩
  have own : relay.OwnIds := by
    intro id reference found
    by_cases same : id = "a"
    · subst same
      cases found
      exact ⟨_, rfl, rfl⟩
    · simp [relay, Directory.find?, List.lookup_cons, beq_false_of_ne same] at found
  obtain ⟨after, outcome, shaken, decided, -, rebinds, -⟩ :=
    handshake_decided own ⟨some "a", some "t", some "peerjs"⟩ 1
  have presents :
      HandshakeParameters.Presents ⟨some "a", some "t", some "peerjs"⟩ ⟨"a", "t", "peerjs"⟩ :=
    ⟨rfl, rfl, rfl, by decide⟩
  have reconnected : outcome = .reconnected 0 :=
    (decided _).mpr (.known presents rfl rfl rfl rfl)
  obtain ⟨id, -, rebound⟩ := rebinds 0 reconnected
  obtain ⟨client, known, bound⟩ := rebound.bound
  cases known
  exact ⟨relay, after, own, Nat.le_refl _, reconnected ▸ shaken, bound⟩

end Relay

end SignalRelay
