import SignalRelay.Http.Answer
import SignalRelay.Proofs.Delivery
import SignalRelay.Proofs.Json.Skipping

namespace SignalRelay

/-!
# What a request does

A request has to pass seven checks in turn, and the first that it fails decides on the
answer.  A request that fails one changes nothing at all.  One that passes them all is
queued on the connection of its destination if that takes it, and changes nothing else.
-/

/-- What a request has to meet, and the refusal of one that does not. -/
structure RequestCheck where
  met : Prop
  refusal : Refusal

/-- The first of the given checks that is not met decides on the refusal, if there is one. -/
inductive RequestCheck.Decide : List RequestCheck → Option Refusal → Prop where
  | passed : Decide [] none
  | failed
      {check : RequestCheck}
      {later : List RequestCheck}
      (unmet : ¬check.met) :
      Decide (check :: later) (some check.refusal)
  | next
      {check : RequestCheck}
      {later : List RequestCheck}
      {refusal? : Option Refusal}
      (met : check.met)
      (decided : Decide later refusal?) :
      Decide (check :: later) refusal?

namespace RelayRequest

/-- The body of a request can be read, and asks for a destination and a payload: those under
their names, as far as it has them. -/
def Asks (request : RelayRequest) (destination : Option String) (payload : Json) : Prop :=
  ∃ contents,
    RecordForm.ofOctets
        ⟨"struct RelayBody", [("dst", .optionalText), ("payload", .value)]⟩ request.body =
      .ok contents ∧
      (∀ id, destination = some id ↔ contents[0]?.join = some (.text id)) ∧
      (∀ value, contents[1]?.join = some (.value value) → payload = value) ∧
      ((∀ value, contents[1]?.join ≠ some (.value value)) → payload = .null)

/-- A body that can be read asks for one destination and one payload. -/
theorem asks_iff
    {request : RelayRequest}
    {contents : FieldContents}
    (read : form.ofOctets request.body = .ok contents)
    {destination : Option String}
    {payload : Json} :
    request.Asks destination payload ↔
      destination = FieldContent.text? contents[0]?.join ∧
        payload = FieldContent.json contents[1]?.join := by
  have texts (field : Option FieldContent) (id : String) :
      FieldContent.text? field = some id ↔ field = some (.text id) := by
    rcases field with - | (text | - | value) <;> simp [FieldContent.text?]
  constructor
  · rintro ⟨others, readToo, destined, carried, missing⟩
    cases read.symm.trans readToo
    refine ⟨Option.ext fun id => (destined id).trans (texts _ id).symm, ?_⟩
    rcases held : contents[1]?.join with - | (text | - | value)
    · exact missing (by simp [held])
    · exact missing (by simp [held])
    · exact missing (by simp [held])
    · exact carried value held
  · rintro ⟨rfl, rfl⟩
    refine ⟨contents, read, texts _, fun value held => by rw [held]; rfl, fun valueless => ?_⟩
    rcases held : contents[1]?.join with - | (text | - | value)
    · rfl
    · rfl
    · rfl
    · exact (valueless value held).elim

theorem Asks.unique
    {request : RelayRequest}
    {destination otherDestination : Option String}
    {payload otherPayload : Json}
    (asks : request.Asks destination payload)
    (asksToo : request.Asks otherDestination otherPayload) :
    (destination, payload) = (otherDestination, otherPayload) := by
  have ⟨contents, read, _⟩ := asks
  obtain ⟨rfl, rfl⟩ := (asks_iff read).mp asks
  obtain ⟨rfl, rfl⟩ := (asks_iff read).mp asksToo
  rfl

/-- A body that cannot be read asks for nothing. -/
theorem not_asks
    {request : RelayRequest}
    {fault : Fault}
    (refused : form.ofOctets request.body = .error fault)
    (destination : Option String)
    (payload : Json) :
    ¬request.Asks destination payload := by
  rintro ⟨contents, read, -⟩
  cases refused.symm.trans read

/-- From an object that holds a message, a request reads that message but for kind and source,
which it names itself. -/
theorem message_of_ofOctets
    {octets : Octets}
    (object : RecordForm.OpensObject octets)
    {message : Message}
    (read : Message.ofOctets octets = .ok message)
    (source : String) :
    ∃ contents,
      form.ofOctets octets = .ok contents ∧
        RelayRequest.message message.kind source contents = message.withSource source := by
  unfold Message.ofOctets at read
  cases whole : Message.form.ofOctets octets with
  | error fault =>
      rw [whole] at read
      cases read
  | ok contents =>
      rw [whole] at read
      cases read
      have readBody : form.ofOctets octets = .ok (contents.drop 2) :=
        @RecordForm.ofOctets_of_append Message.form form
          [("type", .text), ("src", .optionalText)]
          rfl (by decide) (by decide) octets object contents whole
      refine ⟨_, readBody, ?_⟩
      simp [RelayRequest.message, Message.ofContents, Message.withSource]

end RelayRequest

namespace Relay

/-- What a request is checked for before its message is looked at. -/
def requestChecks (relay : Relay) (request : RelayRequest) : List RequestCheck :=
  [⟨request.key = relay.settings.key, ⟨401, "invalid_key"⟩⟩,
    ⟨∃ name ∈ ["offer", "candidate", "answer", "leave"],
        MessageKind.SameUpToCase request.kind name,
      ⟨400, "unsupported_message_type"⟩⟩,
    ⟨(relay.directory.find? request.id).isSome, ⟨404, "source_not_found"⟩⟩,
    ⟨∃ reference client,
        relay.directory.find? request.id = some reference ∧
          relay.client? reference = some client ∧
          client.token = request.token,
      ⟨401, "invalid_token"⟩⟩,
    ⟨∃ destination payload, request.Asks destination payload, ⟨400, "invalid_message"⟩⟩]

/-- What the message of a request is checked for. -/
def destinationChecks (relay : Relay) (request : RelayRequest) : List RequestCheck :=
  [⟨∃ id payload, request.Asks (some id) payload ∧ id ≠ "", ⟨400, "invalid_message"⟩⟩,
    ⟨∃ id payload, request.Asks (some id) payload ∧ (relay.directory.find? id).isSome,
      ⟨404, "destination_not_found"⟩⟩]

/-- All seven checks of a request, in their order. -/
def checks (relay : Relay) (request : RelayRequest) : List RequestCheck :=
  relay.requestChecks request ++ relay.destinationChecks request

end Relay

/-- Whether a text needs no escapes. -/
def Json.needsNoEscape (text : String) : Bool :=
  text.toList.all fun c => escape c == [c]

/-- A text that needs no escapes is written as it is. -/
theorem Json.stringText_of_plain
    {text : String}
    (plain : needsNoEscape text = true) :
    stringText text = '"' :: (text.toList ++ ['"']) := by
  have kept : ∀ c ∈ text.toList, escape c = [c] :=
    fun c member => beq_iff_eq.mp (List.all_eq_true.mp plain c member)
  have unescaped : text.toList.flatMap escape = text.toList := by
    rw [List.flatMap_def, List.map_congr_left kept, ← List.flatMap_def]
    exact List.flatMap_singleton' _
  rw [stringText, unescaped]
  rfl

/-- A refusal as it is answered, if its reason needs no escapes. -/
theorem Refusal.response_of_plain
    {refusal : Refusal}
    (plain : Json.needsNoEscape refusal.reason = true) :
    refusal.response =
      { status := refusal.status
        contentType := some "application/json"
        body := "\x7b\"success\":false,\"reason\":\"" ++ refusal.reason ++ "\"\x7d" } := by
  have success : Json.needsNoEscape "success" = true := by decide
  have reason : Json.needsNoEscape "reason" = true := by decide
  have body :
      refusal.body = "\x7b\"success\":false,\"reason\":\"" ++ refusal.reason ++ "\"\x7d" := by
    apply String.toList_inj.mp
    simp [Refusal.body, Json.render, Json.chars, Json.memberChars,
      Json.stringText_of_plain plain, Json.stringText_of_plain success,
      Json.stringText_of_plain reason]
  rw [Refusal.response, HttpResponse.json, body]

namespace RequestCheck.Decide

variable {checks later : List RequestCheck} {refusal? : Option Refusal}

/-- Checks that are all met leave the decision to those behind them. -/
theorem append
    (allMet : Decide checks none)
    (decided : Decide later refusal?) :
    Decide (checks ++ later) refusal? := by
  induction checks with
  | nil =>
      exact decided
  | cons check rest inductionHypothesis =>
      cases allMet with
      | next met restMet =>
          exact .next met (inductionHypothesis restMet)

/-- Checks that are not all met decide, whatever stands behind them. -/
theorem append_failed
    {refusal : Refusal}
    (failed : Decide checks (some refusal)) :
    Decide (checks ++ later) (some refusal) := by
  induction checks with
  | nil =>
      cases failed
  | cons check rest inductionHypothesis =>
      cases failed with
      | failed unmet =>
          exact .failed unmet
      | next met failedRest =>
          exact .next met (inductionHypothesis failedRest)

/-- A check that is met leaves the decision to those behind it. -/
theorem of_met
    {check : RequestCheck}
    (decided : Decide (check :: later) refusal?)
    (met : check.met) :
    Decide later refusal? := by
  cases decided with
  | failed unmet => exact (unmet met).elim
  | next _ decidedLater => exact decidedLater

/-- A check that is not met decides. -/
theorem of_not_met
    {check : RequestCheck}
    (decided : Decide (check :: later) refusal?)
    (unmet : ¬check.met) :
    refusal? = some check.refusal := by
  cases decided with
  | failed _ => rfl
  | next met _ => exact (unmet met).elim

/-- A refusal is the one of a check. -/
theorem exists_check
    {refusal : Refusal}
    (decided : Decide checks (some refusal)) :
    ∃ check ∈ checks, check.refusal = refusal := by
  induction checks with
  | nil =>
      cases decided
  | cons check rest inductionHypothesis =>
      cases decided with
      | failed unmet =>
          exact ⟨check, List.mem_cons_self, rfl⟩
      | next met decidedRest =>
          obtain ⟨decisive, member, same⟩ := inductionHypothesis decidedRest
          exact ⟨decisive, List.mem_cons_of_mem _ member, same⟩

end RequestCheck.Decide

namespace Relay

open RequestCheck

/-- No reason for which a request is refused needs escapes. -/
theorem reason_of_check
    {relay : Relay}
    {request : RelayRequest}
    {check : RequestCheck}
    (member : check ∈ relay.checks request) :
    Json.needsNoEscape check.refusal.reason = true := by
  have reasons :
      (relay.checks request).map (·.refusal.reason) =
        ["invalid_key", "unsupported_message_type", "source_not_found", "invalid_token",
          "invalid_message", "invalid_message", "destination_not_found"] := rfl
  have plain :
      ∀ reason ∈ ["invalid_key", "unsupported_message_type", "source_not_found",
          "invalid_token", "invalid_message", "invalid_message", "destination_not_found"],
        Json.needsNoEscape reason = true := by
    decide
  exact plain _ (reasons ▸ List.mem_map_of_mem (f := (·.refusal.reason)) member)

/--
Either a request is refused by the first of its checks that is not met, or they are all met
and its message is of the kind and from the id that it names, with the destination and the
payload that its body asks for.
-/
theorem requested_decided
    (relay : Relay)
    (request : RelayRequest) :
    (∃ refusal,
        relay.requested request = .error refusal ∧
          Decide (relay.requestChecks request) (some refusal)) ∨
      ∃ kind destination payload,
        relay.requested request = .ok ⟨kind, some request.id, destination, payload⟩ ∧
          kind.text = MessageKind.capitals request.kind ∧
          request.Asks destination payload ∧
          Decide (relay.requestChecks request) none := by
  by_cases sameKey : request.key = relay.settings.key
  case neg =>
    have differs : relay.settings.keyMatches request.key = false := by
      simpa [Settings.keyMatches] using Ne.symm sameKey
    exact .inl ⟨.invalidKey, by simp [requested, differs], .failed sameKey⟩
  have matching : relay.settings.keyMatches request.key = true := by
    simp [Settings.keyMatches, sameKey]
  by_cases named :
      ∃ name ∈ ["offer", "candidate", "answer", "leave"],
        MessageKind.SameUpToCase request.kind name
  case neg =>
    have unsupported := MessageKind.ofRequest?_of_not_named named
    exact .inl ⟨.unsupportedKind, by simp [requested, matching, unsupported],
      .next sameKey (.failed named)⟩
  have supported := MessageKind.ofRequest?_of_named named
  cases found : relay.directory.find? request.id with
  | none =>
      exact .inl ⟨.sourceNotFound, by simp [requested, matching, supported, found],
        .next sameKey (.next named (.failed (by simp [found])))⟩
  | some reference =>
      by_cases authorized : relay.tokenMatches reference request.token = true
      case neg =>
        have stranger :
            ¬∃ held client,
              relay.directory.find? request.id = some held ∧
                relay.client? held = some client ∧
                client.token = request.token := by
          rintro ⟨held, client, foundHeld, known⟩
          rw [found] at foundHeld
          cases foundHeld
          exact authorized ((tokenMatches_iff ..).mpr ⟨client, known⟩)
        exact .inl ⟨.invalidToken,
          by simp [requested, matching, supported, found, authorized],
          .next sameKey (.next named (.next (by simp [found]) (.failed stranger)))⟩
      obtain ⟨client, known⟩ := (tokenMatches_iff ..).mp authorized
      have soFar {later : List RequestCheck} {refusal? : Option Refusal}
          (decided : Decide later refusal?) :
          Decide ((relay.requestChecks request).take 4 ++ later) refusal? :=
        .next sameKey (.next named (.next (by simp [found])
          (.next ⟨reference, client, found, known⟩ decided)))
      cases read : RelayRequest.form.ofOctets request.body with
      | error fault =>
          have unread :
              ¬∃ destination payload, request.Asks destination payload := by
            rintro ⟨destination, payload, asks⟩
            exact RelayRequest.not_asks read destination payload asks
          exact .inl ⟨.invalidMessage,
            by simp [requested, matching, supported, found, authorized, read],
            soFar (.failed unread)⟩
      | ok contents =>
          have asks := (RelayRequest.asks_iff read).mpr ⟨rfl, rfl⟩
          exact .inr ⟨_, _, _,
            by simp [requested, matching, supported, found, authorized, read,
              RelayRequest.message],
            MessageKind.text_ofText _, asks, soFar (.next ⟨_, _, asks⟩ .passed)⟩

/-- A message whose destination is registered counts as routed, delivered or not. -/
theorem route_of_found
    {relay : Relay}
    {message : Message}
    {id : String}
    {reference : ClientRef}
    (recipient : message.recipient? = some id)
    (found : relay.directory.find? id = some reference) :
    ∃ journal,
      relay.route message = ((relay.sendToClient reference message).1, journal, .ok ()) := by
  unfold route
  simp only [recipient, found]
  split
  · next delivered =>
      rw [delivered]
      exact ⟨_, rfl⟩
  · next undelivered =>
      rw [undelivered]
      exact ⟨_, rfl⟩

/-- What is sent to a client is queued on its connection if that takes it. -/
theorem sendToClient_of_bound
    {relay : Relay}
    {reference : ClientRef}
    {target : ConnectionId}
    (bound : relay.connectionOf reference = some target)
    (message : Message) :
    (relay.sendToClient reference message).1 =
      if (relay.outbox target).Accepts then relay.queued target message.toText else relay := by
  unfold sendToClient sendMessage
  rw [bound]
  by_cases accepts : (relay.outbox target).Accepts
  · rw [if_pos accepts]
    exact congrArg Prod.fst (sendText_of_accepts accepts message.toText)
  · rw [if_neg accepts]
    obtain ⟨error, refused⟩ := sendText_of_not_accepts accepts message.toText
    exact congrArg Prod.fst refused

/--
A request whose destination is unknown changes nothing; any other is sent to the client that
is registered under its destination.
-/
theorem relayRequest_decided
    (relay : Relay)
    (request : RelayRequest) :
    (∃ journal refusal,
        relay.relayRequest request = (relay, journal, .error refusal) ∧
          Decide (relay.checks request) (some refusal)) ∨
      ∃ journal kind id payload reference,
        kind.text = MessageKind.capitals request.kind ∧
          request.Asks (some id) payload ∧
          relay.directory.find? id = some reference ∧
          relay.relayRequest request =
            ((relay.sendToClient reference ⟨kind, some request.id, some id, payload⟩).1,
              journal, .ok ()) ∧
          Decide (relay.checks request) none := by
  rcases relay.requested_decided request with
      ⟨refusal, refused, decided⟩ |
        ⟨kind, destination, payload, ordered, named, asks, decided⟩
  · exact .inl ⟨[], refusal, by simp [relayRequest, refused], decided.append_failed⟩
  · generalize isMessage :
        (⟨kind, some request.id, destination, payload⟩ : Message) = message at ordered
    cases recipient : message.recipient? with
    | none =>
        have missing : ¬∃ id payload, request.Asks (some id) payload ∧ id ≠ "" := by
          rintro ⟨id, other, asksToo, nonempty⟩
          cases asks.unique asksToo
          subst isMessage
          simp [Message.recipient?, nonempty] at recipient
        exact .inl ⟨[], .invalidMessage,
          by simp [relayRequest, ordered, route, recipient, RelayError.refusal,
            Refusal.invalidMessage],
          decided.append (.failed missing)⟩
    | some id =>
        obtain ⟨rfl, nonempty⟩ : destination = some id ∧ id ≠ "" := by
          subst isMessage
          simpa using Option.filter_eq_some_iff.mp recipient
        have present : ∃ id payload, request.Asks (some id) payload ∧ id ≠ "" :=
          ⟨id, payload, asks, nonempty⟩
        cases found : relay.directory.find? id with
        | none =>
            have unknown :
                ¬∃ id payload,
                  request.Asks (some id) payload ∧ (relay.directory.find? id).isSome := by
              rintro ⟨other, _, asksToo, known⟩
              cases asks.unique asksToo
              rw [found] at known
              cases known
            exact .inl ⟨[], ⟨404, "destination_not_found"⟩,
              by simp [relayRequest, ordered, route, recipient, found, RelayError.refusal],
              decided.append (.next present (.failed unknown))⟩
        | some reference =>
            obtain ⟨journal, routed⟩ := route_of_found recipient found
            exact .inr ⟨journal, kind, id, payload, reference, named, asks, found,
              by simp [relayRequest, ordered, routed, isMessage],
              decided.append (.next present
                (.next ⟨id, payload, asks, by simp [found]⟩ .passed))⟩

end Relay

namespace Server

open RequestCheck

variable {settings : Settings} {server : Server}

/--
The whole effect of a request.  It is answered by the first of its seven checks that is not
met, with the status and the reason of that check.  One that is refused changes nothing.  One that
passes them all is answered with 200; its message bears the kind and the id that the request
names, whatever the body says, and the destination and the payload that the body asks for.  It is
put behind what waits on the connection to which the client of its destination is bound, exactly
if that takes it.  Nothing else changes.
-/
theorem request_effect
    (reachable : Reachable settings server)
    (request : RelayRequest) :
    ∃ after journal response refusal?,
      server.step? (.request request) = some after ∧
        server.relay.relayResponse
            [request.key, request.id, request.token, request.kind] request.body =
          (after.relay, journal, response) ∧
        Decide (server.relay.checks request) refusal? ∧
        (∀ refusal,
          refusal? = some refusal →
          response =
              { status := refusal.status
                contentType := some "application/json"
                body :=
                  "\x7b\"success\":false,\"reason\":\"" ++ refusal.reason ++ "\"\x7d" } ∧
            after.relay = server.relay) ∧
        (refusal? = none →
          response =
              { status := 200
                contentType := some "application/json"
                body := "\x7b\"status\":\"ok\"\x7d" } ∧
            ∃ kind id payload reference client target,
              kind.text = MessageKind.capitals request.kind ∧
                request.Asks (some id) payload ∧
                server.relay.directory.find? id = some reference ∧
                server.relay.client? reference = some client ∧
                client.connection = some target ∧
                Relay.SameBooks server.relay after.relay ∧
                after.relay.outbox target =
                  (if (server.relay.outbox target).Accepts then
                    { server.relay.outbox target with
                      items :=
                        (server.relay.outbox target).items ++
                          [.text (Message.toText ⟨kind, some request.id, some id, payload⟩)] }
                  else
                    server.relay.outbox target) ∧
                ∀ other,
                  other ≠ target →
                  after.relay.outbox other = server.relay.outbox other) := by
  have stepped : server.step? (.request request) = some (server.request request) := rfl
  have books := Relay.sameBooks_relayRequest server.relay request
  rcases server.relay.relayRequest_decided request with
      ⟨journal, refusal, refused, decided⟩ |
      ⟨journal, kind, id, payload, reference, named, asks, found, relayed, decided⟩
  · refine ⟨_, journal, refusal.response, some refusal, stepped, ?_, decided, ?_, by simp⟩
    · simp [Relay.relayResponse, Server.request, advance, refused]
    · rintro _ ⟨⟩
      obtain ⟨check, member, rfl⟩ := decided.exists_check
      exact ⟨Refusal.response_of_plain (Relay.reason_of_check member),
        by simp [Server.request, advance, refused]⟩
  · obtain ⟨client, _, _, _, latest, tenure⟩ :=
      (Coherent.of_reachable reachable).held id reference found
    have bound := (Relay.connectionOf_of_client? tenure.known).trans tenure.bound
    have sent := Relay.sendToClient_of_bound bound ⟨kind, some request.id, some id, payload⟩
    have relayNow : (server.request request).relay =
        if (server.relay.outbox latest.connection).Accepts then
          server.relay.queued latest.connection
            (Message.toText ⟨kind, some request.id, some id, payload⟩)
        else
          server.relay := by
      simpa [Server.request, advance, relayed] using sent
    refine ⟨_, journal, .ok, none, stepped, ?_, decided, by simp, fun _ => ⟨rfl, ?_⟩⟩
    · simp [Relay.relayResponse, Server.request, advance, relayed]
    · refine ⟨kind, id, payload, reference, client, latest.connection, named, asks, found,
        tenure.known, tenure.bound, books, ?_, ?_⟩
      · rw [relayNow]
        split
        · next accepts => exact Relay.outbox_queued_same accepts _
        · rfl
      · intro other different
        rw [relayNow]
        split
        · exact Relay.outbox_queued_other different ..
        · rfl

/-- A body that claims another kind and another source is relayed with those of the request, and
with its own payload; with another token it is refused. -/
theorem request_effect_of_forged_body :
    ∃ server after journal strangerJournal,
      (start {}).run?
          [.dial none ⟨some "a", some "ta", some "peerjs"⟩,
            .dial none ⟨some "b", some "tb", some "peerjs"⟩] = some server ∧
        server.relay.relayResponse ["peerjs", "a", "ta", "oFFer"]
            (Utf8.encode
              "\x7b\"type\":\"LEAVE\",\"src\":\"c\",\"dst\":\"b\",\"payload\":[7]\x7d") =
          (after, journal,
            { status := 200
              contentType := some "application/json"
              body := "\x7b\"status\":\"ok\"\x7d" }) ∧
        (after.outbox 1).items =
          [.text "\x7b\"type\":\"OFFER\",\"src\":\"a\",\"dst\":\"b\",\"payload\":[7]\x7d"] ∧
        server.relay.relayResponse ["peerjs", "a", "tb", "offer"]
            (Utf8.encode "\x7b\"dst\":\"b\"\x7d") =
          (server.relay, strangerJournal,
            { status := 401
              contentType := some "application/json"
              body := "\x7b\"success\":false,\"reason\":\"invalid_token\"\x7d" }) := by
  obtain ⟨after, journal, response, refusal?, -, answered, ordered, -, relayed⟩ :=
    @request_effect {} _
      ⟨[.dial none ⟨some "a", some "ta", some "peerjs"⟩,
        .dial none ⟨some "b", some "tb", some "peerjs"⟩], rfl⟩
      ⟨"peerjs", "a", "ta", "oFFer",
        Utf8.encode
          "\x7b\"type\":\"LEAVE\",\"src\":\"c\",\"dst\":\"b\",\"payload\":[7]\x7d"⟩
  obtain ⟨_, strangerJournal, _, stranger?, -, strangerAnswer, decided, answeredTo, -⟩ :=
    @request_effect {} _
      ⟨[.dial none ⟨some "a", some "ta", some "peerjs"⟩,
        .dial none ⟨some "b", some "tb", some "peerjs"⟩], rfl⟩
      ⟨"peerjs", "a", "tb", "offer", Utf8.encode "\x7b\"dst\":\"b\"\x7d"⟩
  have whole :
      Message.ofOctets
          (Utf8.encode
            "\x7b\"type\":\"LEAVE\",\"src\":\"c\",\"dst\":\"b\",\"payload\":[7]\x7d") =
        .ok ⟨.leave, some "c", some "b", .array [.number (.integer 7)]⟩ :=
    @Message.ofText_toText ⟨.leave, some "c", some "b", .array [.number (.integer 7)]⟩
      (by decide) ⟨⟨by decide, by decide⟩, trivial⟩ ⟨trivial, trivial⟩ (by decide)
  obtain ⟨contents, read, same⟩ := RelayRequest.message_of_ofOctets (by decide) whole "a"
  have destined : FieldContent.text? contents[0]?.join = some "b" :=
    congrArg Message.destination same
  have carried : FieldContent.json contents[1]?.join = .array [.number (.integer 7)] :=
    congrArg Message.payload same
  have asks :
      RelayRequest.Asks
        ⟨"peerjs", "a", "ta", "oFFer",
          Utf8.encode
            "\x7b\"type\":\"LEAVE\",\"src\":\"c\",\"dst\":\"b\",\"payload\":[7]\x7d"⟩
        (some "b") (.array [.number (.integer 7)]) := by
    refine Iff.mpr (RelayRequest.asks_iff ?_) ⟨destined.symm, carried.symm⟩
    exact read
  have passed : refusal? = none := by
    have named := (ordered.of_met (by rfl)).of_met
      ⟨"offer", by decide, (MessageKind.capitals_eq_iff ..).mp (by decide)⟩
    have registered := named.of_met (by rfl)
    have authorized := registered.of_met ⟨0, _, by rfl, by rfl, by rfl⟩
    have readable := authorized.of_met ⟨_, _, asks⟩
    have last := (readable.of_met ⟨_, _, asks, by decide⟩).of_met ⟨_, _, asks, by rfl⟩
    cases last
    rfl
  obtain ⟨rfl, kind, id, payload, reference, client, target, named, asksToo, found, known, bound,
    -, queued, -⟩ := relayed passed
  cases asks.unique asksToo
  cases found
  cases known
  have second : target = 1 := (Option.some.inj bound).symm
  rw [second] at queued
  refine ⟨_, after.relay, journal, strangerJournal, rfl, answered, ?_, ?_⟩
  · rw [queued, if_pos (by decide)]
    simp only [Message.toText, Message.members, named]
    rfl
  · have named := (decided.of_met (by rfl)).of_met
      ⟨"offer", by decide, (MessageKind.capitals_eq_iff ..).mp (by decide)⟩
    have wrongToken := (named.of_met (by rfl)).of_not_met (by
      rintro ⟨reference, client, found, known, same⟩
      cases found
      cases known
      exact absurd same (by decide))
    obtain ⟨rfl, unchanged⟩ := answeredTo _ wrongToken
    rw [unchanged] at strangerAnswer
    exact strangerAnswer

end Server

end SignalRelay
