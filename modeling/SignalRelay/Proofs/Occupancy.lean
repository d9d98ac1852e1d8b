import SignalRelay.Proofs.Identity

namespace SignalRelay

/-!
# How many are registered

The directory never holds more ids than the settings allow, and each of them stands for a
client of its own on a connection of its own.  A handshake adds an id only while there is room;
reconnections and ends of sessions never make more of them.
-/

namespace Server

/-- Everything that an act can do to the directory. -/
inductive DirectoryStep (server : Server) : Directory → Prop where
  | kept :
      DirectoryStep server server.relay.directory
  | registered
      {id : String}
      {reference : ClientRef}
      (room : server.relay.directory.size < server.relay.settings.clientLimit) :
      DirectoryStep server (server.relay.directory.insert id reference)
  | released
      {id : String} :
      DirectoryStep server (server.relay.directory.erase id)

theorem directoryStep_dial
    (server : Server)
    (address : Option SocketAddress)
    (parameters : HandshakeParameters) :
    DirectoryStep server (server.dial address parameters).relay.directory ∧
      (server.dial address parameters).relay.settings = server.relay.settings := by
  have result :=
    Relay.handshake_result (server.relay.openConnection address).1 parameters
      server.nextConnection
  change DirectoryStep server (Relay.handshake _ parameters _).1.directory ∧
    (Relay.handshake _ parameters _).1.settings = _
  generalize Relay.handshake _ parameters _ = shaken at result ⊢
  cases result with
  | refused clientless =>
      exact ⟨.kept, rfl⟩
  | rebound presentsId presentsToken registered known =>
      exact ⟨.kept, rfl⟩
  | registered presentsId presentsToken unknown room =>
      exact ⟨.registered room, rfl⟩

theorem directoryStep_finish
    (server : Server)
    (session : Session) :
    DirectoryStep server (server.finish session).relay.directory ∧
      (server.finish session).relay.settings = server.relay.settings := by
  change DirectoryStep server (server.relay.endSession session).1.directory ∧
    (server.relay.endSession session).1.settings = _
  by_cases bound :
      (server.relay.boundEntry? (server.relay.clientId session.client)
        session.connection).isSome
  · have books := Relay.endSession_of_bound bound
    exact ⟨books.directory ▸ .released, books.settings⟩
  · have books := Relay.endSession_of_not_bound bound
    exact ⟨books.directory ▸ .kept, books.settings⟩

/-- Every act does to the directory one of the things that it can do, and nothing to the
settings. -/
theorem directoryStep_of_step?
    {server after : Server}
    {act : Act}
    (stepped : server.step? act = some after) :
    DirectoryStep server after.relay.directory ∧
      after.relay.settings = server.relay.settings := by
  cases stepped_of_step? stepped with
  | dialed address parameters =>
      exact server.directoryStep_dial address parameters
  | finished running =>
      exact server.directoryStep_finish _
  | quiet books meetings ended =>
      exact ⟨books.directory ▸ .kept, books.settings⟩

variable {settings : Settings} {server : Server}

/-- The settings of a server are those that it was started with. -/
theorem settings_of_reachable
    (reachable : Reachable settings server) :
    server.relay.settings = settings := by
  refine reachable.induction
    (motive := fun server => server.relay.settings = settings) rfl ?_
  intro server act after _ same stepped
  exact (directoryStep_of_step? stepped).2.trans same

/-- The ids are in order, and there are no more of them than are allowed. -/
structure Occupied (server : Server) : Prop where
  ordered : Keyed.Ascending server.relay.directory.entries
  within : server.relay.directory.size ≤ server.relay.settings.clientLimit

namespace Occupied

/-- Every act keeps the ids in order and within the limit. -/
theorem step
    {after : Server}
    {act : Act}
    (occupied : Occupied server)
    (stepped : server.step? act = some after) :
    Occupied after := by
  obtain ⟨step, sameSettings⟩ := directoryStep_of_step? stepped
  obtain ⟨ordered, within⟩ := occupied
  suffices kept :
      Keyed.Ascending after.relay.directory.entries ∧
        after.relay.directory.size ≤ server.relay.settings.clientLimit from
    ⟨kept.1, sameSettings ▸ kept.2⟩
  generalize after.relay.directory = directory at step ⊢
  cases step with
  | kept =>
      exact ⟨ordered, within⟩
  | registered room =>
      exact ⟨Keyed.ascending_insert _ _ ordered,
        Nat.le_trans (Keyed.length_insert_le ..) room⟩
  | released =>
      exact ⟨Keyed.ascending_erase _ ordered,
        Nat.le_trans (List.length_filter_le ..) within⟩

theorem of_reachable
    (reachable : Reachable settings server) :
    Occupied server :=
  reachable.induction ⟨.nil, Nat.zero_le _⟩ fun _ occupied stepped => occupied.step stepped

end Occupied

section Tenures

variable
  {id other : String}
  {reference otherReference : ClientRef}
  {client otherClient : Client}
  {earlier since otherEarlier otherSince : List Meeting}
  {registration latest otherRegistration otherLatest : Meeting}

/-- Clients that hold different ids are different. -/
theorem Tenure.reference_ne
    (tenure : Tenure server id reference client earlier registration since latest)
    (otherTenure :
      Tenure server other otherReference otherClient otherEarlier otherRegistration
        otherSince otherLatest)
    (different : id ≠ other) :
    reference ≠ otherReference := by
  intro same
  have known := tenure.known
  rw [same, otherTenure.known] at known
  cases known
  exact different (tenure.ownId.symm.trans otherTenure.ownId)

/-- A connection shook hands for one id only. -/
theorem Tenure.connection_ne
    (tenure : Tenure server id reference client earlier registration since latest)
    (otherTenure :
      Tenure server other otherReference otherClient otherEarlier otherRegistration
        otherSince otherLatest)
    (coherent : Coherent server)
    (different : id ≠ other) :
    latest.connection ≠ otherLatest.connection := by
  intro same
  obtain ⟨member, presents, -⟩ := mem_successes.mp (mem_of_latest? tenure.newest)
  obtain ⟨otherMember, otherPresents, -⟩ :=
    mem_successes.mp (mem_of_latest? otherTenure.newest)
  rw [coherent.meeting_unique member otherMember same, otherPresents] at presents
  exact different (Option.some.inj presents).symm

/-- The latest success for an id that is held came during the tenure. -/
theorem Tenure.latest_mem
    (tenure : Tenure server id reference client earlier registration since latest) :
    latest ∈ registration :: since := by
  have newest := tenure.newest
  rw [latest?, tenure.successes, List.getLast?_append,
    List.getLast?_eq_some_getLast (List.cons_ne_nil _ _), Option.some_or] at newest
  cases newest
  exact List.getLast_mem _

/-- The session on the connection that holds an id is one of the client that holds it. -/
theorem Tenure.client_of_session?
    (tenure : Tenure server id reference client earlier registration since latest)
    (coherent : Coherent server)
    {session : Session}
    (running : server.session? latest.connection = some session) :
    session.client = reference := by
  obtain ⟨-, -, meeting, member, own, given⟩ := of_session? running
  have latestMember := (mem_successes.mp (mem_of_latest? tenure.newest)).1
  rw [coherent.meeting_unique member latestMember own, tenure.given tenure.latest_mem] at given
  exact (Option.some.inj given).symm

end Tenures

/--
The directory holds at most as many ids as the settings allow, none of them twice.  Every id
stands for a client that has it as its own and is bound to a connection that was opened.
Different ids stand for different clients on different connections.  A session that runs on a
connection to which a registered client is bound is a session of that client.
-/
theorem occupancy
    (reachable : Reachable settings server) :
    server.relay.directory.size ≤ settings.clientLimit ∧
      server.relay.directory.ids.Nodup ∧
      (∀ id reference,
        (id, reference) ∈ server.relay.directory.entries →
        ∃ client connection,
          server.relay.client? reference = some client ∧
            client.id = id ∧
            client.connection = some connection ∧
            connection < server.nextConnection) ∧
      (∀ id reference other otherReference,
        (id, reference) ∈ server.relay.directory.entries →
        (other, otherReference) ∈ server.relay.directory.entries →
        id ≠ other →
        reference ≠ otherReference ∧
          server.relay.connectionOf reference ≠ server.relay.connectionOf otherReference) ∧
      ∀ id reference connection session,
        (id, reference) ∈ server.relay.directory.entries →
        server.relay.connectionOf reference = some connection →
        server.session? connection = some session →
        session.client = reference := by
  have coherent := Coherent.of_reachable reachable
  have occupied := Occupied.of_reachable reachable
  have held {id : String} {reference : ClientRef}
      (member : (id, reference) ∈ server.relay.directory.entries) :=
    coherent.held id reference (Keyed.lookup_of_mem occupied.ordered member)
  refine ⟨?_, Keyed.keys_nodup occupied.ordered, ?_, ?_, ?_⟩
  · exact settings_of_reachable reachable ▸ occupied.within
  · intro id reference member
    obtain ⟨client, _, _, _, latest, tenure⟩ := held member
    have met := (mem_successes.mp (mem_of_latest? tenure.newest)).1
    exact ⟨client, latest.connection, tenure.known, tenure.ownId, tenure.bound,
      coherent.connection_lt met⟩
  · intro id reference other otherReference member otherMember different
    obtain ⟨client, _, _, _, latest, tenure⟩ := held member
    obtain ⟨otherClient, _, _, _, otherLatest, otherTenure⟩ := held otherMember
    refine ⟨tenure.reference_ne otherTenure different, ?_⟩
    rw [Relay.connectionOf_of_client? tenure.known, tenure.bound,
      Relay.connectionOf_of_client? otherTenure.known, otherTenure.bound]
    exact fun same => tenure.connection_ne otherTenure coherent different (Option.some.inj same)
  · intro id reference connection session member bound running
    obtain ⟨client, _, _, _, latest, tenure⟩ := held member
    rw [Relay.connectionOf_of_client? tenure.known, tenure.bound] at bound
    cases bound
    exact tenure.client_of_session? coherent running

/-- Where one client is allowed, it may reconnect, but nobody else may register. -/
theorem occupancy_of_one :
    ∃ server session,
      (start { clientLimit := 1 }).run?
          [.dial none ⟨some "a", some "t", some "peerjs"⟩,
            .dial none ⟨some "a", some "t", some "peerjs"⟩,
            .dial none ⟨some "b", some "t", some "peerjs"⟩] = some server ∧
        server.relay.directory.size ≤ 1 ∧
        server.relay.directory.entries = [("a", 0)] ∧
        server.relay.connectionOf 0 = some 1 ∧
        server.session? 1 = some session ∧
        session.client = 0 := by
  obtain ⟨within, -, -, -, own⟩ :=
    @occupancy { clientLimit := 1 } _
      ⟨[.dial none ⟨some "a", some "t", some "peerjs"⟩,
        .dial none ⟨some "a", some "t", some "peerjs"⟩,
        .dial none ⟨some "b", some "t", some "peerjs"⟩], rfl⟩
  exact ⟨_, ⟨0, 1, 0⟩, rfl, within, rfl, rfl, rfl,
    own "a" 0 1 ⟨0, 1, 0⟩ (by decide) rfl rfl⟩

end Server

end SignalRelay
