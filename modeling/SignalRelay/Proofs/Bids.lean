import Mathlib.Data.List.Induction
import Mathlib.Data.List.Nodup
import SignalRelay.Proofs.Holders

namespace SignalRelay

/-!
# Many handshakes in a row

A handshake that passes the examination is a bid for its id.  While no session ends, what many
handshakes lead to can be said without following them one by one.  The ids that are new are
registered in the order in which somebody first bids for them, until there is no room left.
Every id belongs to the token that it was registered with, and is bound to the last connection
that bid for it with that token.
-/

/-- What a handshake bids: an id and a token for a connection. -/
structure Bid where
  connection : ConnectionId
  id : String
  token : String
  deriving Repr, DecidableEq

namespace Meeting

/-- The bid that a handshake makes, if it presents an id, a token and the key of the relay, and
none of them is empty. -/
def bid? (settings : Settings) (meeting : Meeting) : Option Bid :=
  match meeting.parameters with
  | ⟨some id, some token, some key⟩ =>
      if id ≠ "" ∧ token ≠ "" ∧ key ≠ "" ∧ key = settings.key then
        some ⟨meeting.connection, id, token⟩
      else
        none
  | _ => none

end Meeting

namespace Meeting

/-- A handshake bids for an id exactly if it passes the examination. -/
theorem bid?_eq
    (settings : Settings)
    (meeting : Meeting) :
    meeting.bid? settings =
      match settings.examine meeting.parameters with
      | .ok credentials =>
          some ⟨meeting.connection, credentials.id, credentials.token⟩
      | .error _ => none := by
  rcases meeting with ⟨connection, ⟨id, token, key⟩, outcome⟩
  unfold bid? Settings.examine HandshakeParameters.credentials?
    HandshakeParameters.present? Settings.keyMatches
  cases id with
  | none => simp
  | some id =>
      cases token with
      | none => simp
      | some token =>
          cases key with
          | none => simp
          | some key =>
              by_cases noId : id = ""
              · simp [noId]
              by_cases noToken : token = ""
              · simp [noToken]
              by_cases noKey : key = ""
              · simp [noKey]
              by_cases matching : key = settings.key
              · subst matching
                simp [Option.filter, noId, noToken, noKey]
              · simp [Option.filter, noId, noToken, noKey, matching, Ne.symm matching]

theorem examine_of_bid?
    {settings : Settings}
    {meeting : Meeting}
    {bid : Bid}
    (bids : meeting.bid? settings = some bid) :
    ∃ credentials,
      settings.examine meeting.parameters = .ok credentials ∧
        bid = ⟨meeting.connection, credentials.id, credentials.token⟩ := by
  rw [bid?_eq] at bids
  split at bids
  · next credentials passed =>
      exact ⟨credentials, passed, (Option.some.inj bids).symm⟩
  · cases bids

theorem token_of_bid?
    {settings : Settings}
    {meeting : Meeting}
    {bid : Bid}
    (bids : meeting.bid? settings = some bid) :
    meeting.parameters.token = some bid.token := by
  obtain ⟨credentials, passed, rfl⟩ := examine_of_bid? bids
  exact (Settings.of_examine passed).2

end Meeting

namespace Act

/-- What the handshake that an act is presents. -/
def presented? : Act → Option HandshakeParameters
  | .dial _ parameters => some parameters
  | _ => none

/-- The connection whose session an act ends. -/
def finished? : Act → Option ConnectionId
  | .finish connection => some connection
  | _ => none

end Act

namespace Bid

/-- The client that a bid registers. -/
def client (bid : Bid) : Client :=
  ⟨bid.id, bid.token, some bid.connection⟩

/-- The last of some bids for an id with a token. -/
def last? (bids : List Bid) (id token : String) : Option Bid :=
  (bids.filter fun bid => bid.id = id ∧ bid.token = token).getLast?

/-- The ids that bids are made for and that are not held, in the order of the first bids. -/
def freshIds (held : List String) (bids : List Bid) : List String :=
  ((bids.map (·.id)).filter (· ∉ held)).eraseDups

/-- A client bound to the last bid for its id with its token, if there is one. -/
def rebind (bids : List Bid) (client : Client) : Client :=
  { client with
    connection :=
      ((last? bids client.id client.token).map (·.connection)).or client.connection }

theorem id_of_find?
    {bids : List Bid}
    {id : String}
    {first : Bid}
    (found : bids.find? (·.id == id) = some first) :
    first.id = id := by
  simpa using List.find?_some found

/-! ## One more bid -/

theorem last?_concat_same
    (bids : List Bid)
    (bid : Bid) :
    last? (bids ++ [bid]) bid.id bid.token = some bid := by
  simp [last?]

theorem last?_concat_other
    (bids : List Bid)
    {bid : Bid}
    {id token : String}
    (different : ¬(bid.id = id ∧ bid.token = token)) :
    last? (bids ++ [bid]) id token = last? bids id token := by
  simp [last?, different]

theorem mem_freshIds
    {held : List String}
    {bids : List Bid}
    {id : String} :
    id ∈ freshIds held bids ↔ id ∉ held ∧ ∃ bid ∈ bids, bid.id = id := by
  simp [freshIds, and_comm]

/-- What is listed without repetition gains what was not there before. -/
theorem eraseDups_concat
    (ids : List String)
    (id : String) :
    (ids ++ [id]).eraseDups = ids.eraseDups ++ if id ∈ ids then [] else [id] := by
  rw [List.eraseDups_append]
  by_cases seen : id ∈ ids
  · have nothing : [id].removeAll ids = [] := by simp [List.removeAll, seen]
    rw [nothing, if_pos seen, List.eraseDups_nil]
  · have itself : [id].removeAll ids = [id] := by simp [List.removeAll, seen]
    rw [itself, if_neg seen, List.eraseDups_cons]
    rfl

/-- A bid for an id that is held, or that was bid for before, adds no id. -/
theorem freshIds_concat_known
    {held : List String}
    {bids : List Bid}
    {bid : Bid}
    (known : bid.id ∈ held ∨ bid.id ∈ freshIds held bids) :
    freshIds held (bids ++ [bid]) = freshIds held bids := by
  by_cases isHeld : bid.id ∈ held
  · simp [freshIds, isHeld]
  · have before := known.resolve_left isHeld
    rw [freshIds, List.mem_eraseDups] at before
    simp only [freshIds, List.map_append, List.map_cons, List.map_nil, List.filter_append]
    rw [List.filter_singleton, decide_eq_true isHeld, cond_true, eraseDups_concat,
      if_pos before, List.append_nil]

/-- The first bid for an id that is not held adds it at the end. -/
theorem freshIds_concat_new
    {held : List String}
    {bids : List Bid}
    {bid : Bid}
    (free : bid.id ∉ held)
    (new : bid.id ∉ freshIds held bids) :
    freshIds held (bids ++ [bid]) = freshIds held bids ++ [bid.id] := by
  rw [freshIds, List.mem_eraseDups] at new
  simp only [freshIds, List.map_append, List.map_cons, List.map_nil, List.filter_append]
  rw [List.filter_singleton, decide_eq_true free, cond_true, eraseDups_concat, if_neg new]

theorem nodup_freshIds
    (held : List String)
    (bids : List Bid) :
    (freshIds held bids).Nodup := by
  induction bids using List.reverseRecOn with
  | nil =>
      simp [freshIds]
  | append_singleton bids bid inductionHypothesis =>
      by_cases known : bid.id ∈ held ∨ bid.id ∈ freshIds held bids
      · rw [freshIds_concat_known known]
        exact inductionHypothesis
      · rw [not_or] at known
        rw [freshIds_concat_new known.1 known.2]
        simpa using List.Nodup.concat known.2 inductionHypothesis

theorem rebind_concat_own
    (bids : List Bid)
    {bid : Bid}
    {client : Client}
    (ownId : client.id = bid.id)
    (ownToken : client.token = bid.token) :
    rebind (bids ++ [bid]) client =
      { rebind bids client with connection := some bid.connection } := by
  simp [rebind, ownId, ownToken, last?_concat_same]

theorem rebind_concat_other
    (bids : List Bid)
    {bid : Bid}
    {client : Client}
    (different : ¬(bid.id = client.id ∧ bid.token = client.token)) :
    rebind (bids ++ [bid]) client = rebind bids client := by
  simp [rebind, last?_concat_other bids different]

theorem rebind_of_unsought
    {bids : List Bid}
    {client : Client}
    (unsought : ∀ bid ∈ bids, bid.id ≠ client.id) :
    rebind bids client = client := by
  have nothing :
      bids.filter (fun bid => bid.id = client.id ∧ bid.token = client.token) = [] := by
    simpa using fun bid member own => absurd own (unsought bid member)
  rw [rebind, last?, nothing]
  rfl

/-! ## Room -/

/-- The ids among those bid for that are registered: as many of the new ones as there is room
for. -/
def newcomers (held : List String) (limit : Nat) (bids : List Bid) : List String :=
  (freshIds held bids).take (limit - held.length)

section Newcomers

variable {held : List String} {limit : Nat} {bids : List Bid} {bid : Bid}

theorem mem_newcomers
    {id : String}
    (member : id ∈ newcomers held limit bids) :
    id ∉ held ∧ ∃ bid ∈ bids, bid.id = id :=
  mem_freshIds.mp (List.mem_of_mem_take member)

/-- If the first bid is for a new id, and there is room, that id is registered. -/
theorem first_mem_newcomers
    {first : Bid}
    {later : List Bid}
    (free : first.id ∉ held)
    (room : held.length < limit) :
    first.id ∈ newcomers held limit (first :: later) := by
  obtain ⟨places, enough⟩ := Nat.exists_eq_add_of_lt room
  rw [newcomers, freshIds, List.map_cons, List.filter_cons_of_pos (by simpa using free),
    List.eraseDups_cons, enough, Nat.add_assoc, Nat.add_sub_cancel_left, List.take_succ_cons]
  exact List.mem_cons_self

/-- While there is room, everybody new is registered. -/
theorem newcomers_of_room
    (room : held.length + (newcomers held limit bids).length < limit) :
    newcomers held limit bids = freshIds held bids := by
  rw [newcomers, List.length_take] at room
  exact List.take_of_length_le (by omega)

/-- A bid for an id that is registered registers none. -/
theorem newcomers_concat_known
    (known : bid.id ∈ held ∨ bid.id ∈ newcomers held limit bids) :
    newcomers held limit (bids ++ [bid]) = newcomers held limit bids := by
  rw [newcomers, freshIds_concat_known (known.imp_right List.mem_of_mem_take), newcomers]

/-- The first bid for an id registers it while there is room. -/
theorem newcomers_concat_new
    (room : held.length + (newcomers held limit bids).length < limit)
    (free : bid.id ∉ held)
    (new : bid.id ∉ newcomers held limit bids) :
    newcomers held limit (bids ++ [bid]) = newcomers held limit bids ++ [bid.id] := by
  have all := newcomers_of_room room
  rw [all] at new room ⊢
  rw [newcomers, freshIds_concat_new free new]
  apply List.take_of_length_le
  rw [List.length_append, List.length_singleton]
  omega

/-- A bid registers nothing when there is no room. -/
theorem newcomers_concat_full
    (full : limit ≤ held.length + (newcomers held limit bids).length) :
    newcomers held limit (bids ++ [bid]) = newcomers held limit bids := by
  have longEnough : limit - held.length ≤ (freshIds held bids).length := by
    rw [newcomers, List.length_take] at full
    omega
  by_cases known : bid.id ∈ held ∨ bid.id ∈ freshIds held bids
  · rw [newcomers, freshIds_concat_known known, newcomers]
  · rw [not_or] at known
    rw [newcomers, freshIds_concat_new known.1 known.2,
      List.take_append_of_le_length longEnough, newcomers]

/-- If all bids are for one free id, and there is room, that id is registered. -/
theorem newcomers_of_one
    {id : String}
    (free : id ∉ held)
    (room : held.length < limit)
    {first : Bid}
    {later : List Bid}
    (one : ∀ bid ∈ first :: later, bid.id = id) :
    (newcomers held limit (first :: later)).Perm [id] := by
  have own := one first List.mem_cons_self
  have nodup : (newcomers held limit (first :: later)).Nodup :=
    (nodup_freshIds ..).sublist (List.take_sublist ..)
  refine (List.perm_ext_iff_of_nodup nodup (List.nodup_singleton id)).mpr fun other => ?_
  rw [List.mem_singleton]
  constructor
  · intro new
    obtain ⟨-, bid, member, same⟩ := mem_newcomers new
    exact same.symm.trans (one bid member)
  · rintro rfl
    rw [← own] at free ⊢
    exact first_mem_newcomers free room

end Newcomers

end Bid

end SignalRelay
