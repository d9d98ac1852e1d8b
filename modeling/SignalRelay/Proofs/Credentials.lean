import SignalRelay.Http.Answer
import SignalRelay.Proofs.Admission
import SignalRelay.Proofs.Form
import SignalRelay.Proofs.Mount

namespace SignalRelay

/-!
# Credentials in the URL of the socket

A client adds its key, its id and its token to the query of a URL, and the relay reads them from
there.  Whatever they are made of, they are read as they were written, behind the pairs that the
host and the path of the options brought along.  Without any such the relay takes nothing else
from the query.
-/

namespace SocketUrl

/-- A pair that is added to a URL is the last one that is read from it. -/
theorem pairs_appendPair
    (url : SocketUrl)
    (pair : String × String) :
    (url.appendPair pair).pairs = url.pairs ++ [pair] := by
  rw [pairs, pairs, Utf8.encode_ofList, Utf8.encode_ofList]
  exact Form.decodePairs_append (url.query.getD []) pair

/-- A URL without a question mark has no query. -/
theorem query_of_read
    {names : NameMapping}
    {secure : Bool}
    {text : String}
    {url : SocketUrl}
    (urlRead : read names secure text = .ok url)
    (noMark : '?' ∉ text.toList) :
    url.query = none := by
  simp only [read] at urlRead
  split at urlRead
  · cases urlRead
  · cases urlRead
    -- What the query is cut from is a part of the text.
    have behind :
        (((text.toList.filter fun c => !isSkipped c).dropWhile UrlPath.isSlash).dropWhile
          fun c => !endsAuthority c).Sublist text.toList :=
      (List.dropWhile_sublist _).trans
        ((List.dropWhile_sublist _).trans List.filter_sublist)
    generalize ((text.toList.filter fun c => !isSkipped c).dropWhile UrlPath.isSlash).dropWhile
      (fun c => !endsAuthority c) = rest at behind ⊢
    have front : (Pieces.cutOnce (· == '#') rest).1.Sublist rest := by
      unfold Pieces.cutOnce
      split
      · exact List.takeWhile_sublist _
      · exact List.takeWhile_sublist _
    have absent : ∀ c ∈ (Pieces.cutOnce (· == '#') rest).1, (c == '?') = false := by
      intro c member
      refine beq_false_of_ne ?_
      rintro rfl
      exact noMark (behind.mem (front.mem member))
    simp only [Pieces.cutOnce_of_absent absent, Option.map_none]

end SocketUrl

namespace Relay

/-- Who presents everything, and the right key, is not turned away for either. -/
theorem handshake_not_rejected
    {relay : Relay}
    {parameters : HandshakeParameters}
    {credentials : Credentials}
    (presented : parameters.credentials? = some credentials)
    (matching : relay.settings.keyMatches credentials.key = true)
    (connection : ConnectionId) :
    (relay.handshake parameters connection).2 ≠ .rejected .invalidParameters ∧
      (relay.handshake parameters connection).2 ≠ .rejected .invalidKey := by
  simp only [handshake, presented, matching, ↓reduceIte]
  cases (relay.enroll credentials.id credentials.token connection
      relay.settings.clientLimit).2 with
  | registered | rebound | idTaken => exact ⟨nofun, nofun⟩
  | limitReached => exact ⟨nofun, nofun⟩

end Relay

namespace ClientOptions

variable {options : ClientOptions}

theorem mem_mount
    {c : Char}
    (member : c ∈ options.mount.toList) :
    c = '/' ∨ c ∈ options.path.toList := by
  unfold mount at member
  split at member
  · cases member
  · rw [String.toList_ofList] at member
    refine (List.mem_cons.mp member).imp_right fun inPath => ?_
    exact (Blank.stripWhile_sublist _ _).mem ((Blank.stripWhile_sublist _ _).mem inPath)

/-- There is no question mark in what a client has for its socket but for one in its options. -/
theorem question_not_mem_endpoint
    (inHost : '?' ∉ options.host.toList)
    (inPath : '?' ∉ options.path.toList) :
    '?' ∉ options.endpoint.toList := by
  rw [toList_endpoint, String.toList_append]
  intro member
  rcases List.mem_append.mp member with front | behind
  · rcases List.mem_append.mp front with host | port
    · exact inHost host
    · rcases List.mem_cons.mp port with colon | digit
      · cases colon
      · exact absurd (Nat.isDigit_of_mem_toDigits (by decide) (by decide) digit) (by decide)
  · rcases List.mem_append.mp behind with mount | name
    · exact (mem_mount mount).elim (by decide) inPath
    · exact absurd name (by decide)

theorem socketUrl_of_read
    {names : NameMapping}
    {parsed : SocketUrl}
    (urlRead : SocketUrl.read names options.secure options.endpoint = .ok parsed)
    (id token : String) :
    options.socketUrl names id token =
      .ok (((parsed.appendPair ("key", options.key)).appendPair ("id", id)).appendPair
        ("token", token)) := by
  rw [socketUrl, baseUrl, urlRead]
  rfl

/-- What a URL with credentials has in its query, and where it comes from. -/
theorem pairs_socketUrl
    {names : NameMapping}
    {id token : String}
    {url : SocketUrl}
    (made : options.socketUrl names id token = .ok url) :
    ∃ parsed,
      SocketUrl.read names options.secure options.endpoint = .ok parsed ∧
        url.pairs = parsed.pairs ++ [("key", options.key), ("id", id), ("token", token)] := by
  cases urlRead : SocketUrl.read names options.secure options.endpoint with
  | error error =>
      rw [socketUrl, baseUrl, urlRead] at made
      cases made
  | ok parsed =>
      rw [socketUrl_of_read urlRead] at made
      cases made
      refine ⟨parsed, rfl, ?_⟩
      simp only [SocketUrl.pairs_appendPair, List.append_assoc, List.cons_append, List.nil_append]

/--
Credentials survive the URL.  Whenever a client can make the URL of its socket, for any key, id
and token and whatever ASCII forms names beyond ASCII have, the pairs in the query of the URL are
those that the text of host, port and path brought along, and behind them the key, the id and the
token as they are.  If there is no question mark in the
host and in the path, these three are all, and a relay reads from the query just these parameters;
if none of them is empty and the key is the relay's own, the relay does not turn the client away
for its parameters or for its key.
-/
theorem credentials_survive_url
    {names : NameMapping}
    {options : ClientOptions}
    {id token : String}
    {url : SocketUrl}
    (made : options.socketUrl names id token = .ok url) :
    (∃ parsed,
      SocketUrl.read names options.secure
          (options.host ++ ":" ++ toString options.port.toNat ++ options.mount ++ "/peerjs") =
        .ok parsed ∧
        url.pairs =
          parsed.pairs ++ [("key", options.key), ("id", id), ("token", token)]) ∧
      ('?' ∉ options.host.toList →
        '?' ∉ options.path.toList →
        url.pairs = [("key", options.key), ("id", id), ("token", token)] ∧
          HandshakeParameters.ofQuery url.query =
            .ok ⟨some id, some token, some options.key⟩ ∧
          ∀ (relay : Relay) (connection : ConnectionId),
            relay.settings.key = options.key →
            "" ∉ [id, token, options.key] →
            let outcome :=
              (relay.handshake ⟨some id, some token, some options.key⟩ connection).2
            outcome ≠ .rejected .invalidParameters ∧ outcome ≠ .rejected .invalidKey) := by
  obtain ⟨parsed, urlRead, pairs⟩ := pairs_socketUrl made
  refine ⟨⟨parsed, urlRead, pairs⟩, fun inHost inPath => ?_⟩
  have noQuery : parsed.query = none :=
    SocketUrl.query_of_read urlRead (question_not_mem_endpoint inHost inPath)
  have nothing : parsed.pairs = [] := by
    rw [SocketUrl.pairs, noQuery]
    rfl
  have exact : url.pairs = [("key", options.key), ("id", id), ("token", token)] := by
    rw [pairs, nothing, List.nil_append]
  refine ⟨exact, ?_, fun relay connection sameKey nonempty => ?_⟩
  · rw [HandshakeParameters.ofQuery, ← SocketUrl.pairs, exact]
    rfl
  · have presented : HandshakeParameters.credentials?
        ⟨some id, some token, some options.key⟩ = some ⟨id, token, options.key⟩ :=
      HandshakeParameters.credentials?_eq_some_iff.mpr ⟨rfl, rfl, rfl, nonempty⟩
    exact Relay.handshake_not_rejected presented (beq_iff_eq.mpr sameKey) connection

/-- A query in the path comes in front; without one the relay reads the credentials alone, signs,
spaces and all, also if the name of the host is beyond ASCII. -/
theorem credentials_survive_url_with_signs :
    (∃ (options : ClientOptions) (url : SocketUrl),
      options.path = " /app?room=1&/ " ∧
        options.socketUrl (fun _ => none) "a b" "t=&" = .ok url ∧
        url.pairs =
          [("room", "1"), ("/peerjs", ""), ("key", "k+%#"), ("id", "a b"), ("token", "t=&")]) ∧
      ∃ (names : NameMapping) (options : ClientOptions) (url : SocketUrl) (relay : Relay),
        options.host = "bücher.example" ∧
          '?' ∉ options.host.toList ∧
          '?' ∉ options.path.toList ∧
          options.socketUrl names "a b" "t=&" = .ok url ∧
          url.host = .domain "xn--bcher-kva.example" ∧
          url.pairs = [("key", "k+%#"), ("id", "a b"), ("token", "t=&")] ∧
          HandshakeParameters.ofQuery url.query =
            .ok ⟨some "a b", some "t=&", some "k+%#"⟩ ∧
          relay.settings.key = options.key ∧
          "" ∉ ["a b", "t=&", options.key] ∧
          let outcome := (relay.handshake ⟨some "a b", some "t=&", some "k+%#"⟩ 0).2
          outcome ≠ .rejected .invalidParameters ∧ outcome ≠ .rejected .invalidKey := by
  have made {names : NameMapping} {options : ClientOptions} {host : Host}
      (hosted : (options.socketUrl names "a b" "t=&").toOption.map (·.host) = some host) :
      ∃ url, options.socketUrl names "a b" "t=&" = .ok url ∧ url.host = host := by
    cases found : options.socketUrl names "a b" "t=&" with
    | error error =>
        rw [found] at hosted
        cases hosted
    | ok url =>
        rw [found] at hosted
        exact ⟨url, rfl, Option.some.inj hosted⟩
  constructor
  · let options : ClientOptions :=
      { host := "relay.example", path := " /app?room=1&/ ", key := "k+%#" }
    have brought :
        (SocketUrl.read (fun _ => none) options.secure options.endpoint).toOption.map (·.pairs) =
          some [("room", "1"), ("/peerjs", "")] := by
      decide
    have hosted :
        (options.socketUrl (fun _ => none) "a b" "t=&").toOption.map (·.host) =
          some (.domain "relay.example") := by
      decide
    obtain ⟨url, madeUrl, -⟩ := made hosted
    obtain ⟨⟨parsed, urlRead, pairs⟩, -⟩ := credentials_survive_url madeUrl
    have front : parsed.pairs = [("room", "1"), ("/peerjs", "")] := by
      change SocketUrl.read _ options.secure options.endpoint = _ at urlRead
      rw [urlRead] at brought
      exact Option.some.inj brought
    rw [front] at pairs
    exact ⟨options, url, rfl, madeUrl, pairs⟩
  · let names : NameMapping := fun name =>
      if name = "bücher.example" then some "xn--bcher-kva.example" else none
    let options : ClientOptions :=
      { host := "bücher.example", path := "/é #/", key := "k+%#", secure := true }
    let relay : Relay := .start { key := "k+%#" }
    have noMark : '?' ∉ options.host.toList ∧ '?' ∉ options.path.toList := by decide
    have nonempty : "" ∉ ["a b", "t=&", options.key] := by decide
    have hosted :
        (options.socketUrl names "a b" "t=&").toOption.map (·.host) =
          some (.domain "xn--bcher-kva.example") := by
      decide
    obtain ⟨url, madeUrl, host⟩ := made hosted
    obtain ⟨pairs, presented, admitted⟩ := (credentials_survive_url madeUrl).2 noMark.1 noMark.2
    exact ⟨names, options, url, relay, rfl, noMark.1, noMark.2, madeUrl, host, pairs, presented,
      rfl, nonempty, admitted relay 0 rfl nonempty⟩

end ClientOptions

end SignalRelay
