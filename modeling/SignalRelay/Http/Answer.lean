import SignalRelay.Http.Message
import SignalRelay.Http.Route
import SignalRelay.Relay.Request
import SignalRelay.Relay.Session
import SignalRelay.Text.Uuid
import SignalRelay.Url.Form

namespace SignalRelay

/-!
# Answers

What the relay answers to a request.  The target decides on the resource, the method is
checked next, then the parameters in the path, and then the resource has its say.
-/

/-- What answers depend on besides the relay. -/
structure AnswerContext where
  /-- Whether the counters are exported. -/
  metricsExported : Bool := false
  /-- Random octets for a fresh id. -/
  random : Octets := []
  deriving Repr, DecidableEq

namespace HandshakeParameters

/-- Put a pair of a query into its place; a place is not taken twice. -/
def insert (parameters : HandshakeParameters) :
    String × String → Except String HandshakeParameters
  | ("id", text) =>
      if parameters.id.isSome then .error "id" else .ok { parameters with id := some text }
  | ("token", text) =>
      if parameters.token.isSome then .error "token"
      else .ok { parameters with token := some text }
  | ("key", text) =>
      if parameters.key.isSome then .error "key"
      else .ok { parameters with key := some text }
  | _ => .ok parameters

/-- The parameters among the pairs of a query, or the name of one that is repeated. -/
def ofPairs (pairs : List (String × String)) : Except String HandshakeParameters :=
  pairs.foldlM insert {}

/-- The parameters in a query. -/
def ofQuery (query : Option (List Char)) : Except String HandshakeParameters :=
  ofPairs (Form.decodePairs (Utf8.encode (String.ofList (query.getD []))))

end HandshakeParameters

namespace Capture

/-- The text that a parameter stands for. -/
def decode? (capture : Capture) : Option String :=
  Utf8.decode? (Percent.decode (Utf8.encode (String.ofList capture.text)))

/-- The texts of all parameters, or the response to the first that is no text. -/
def decodeAll : List Capture → Except HttpResponse (List String)
  | [] => .ok []
  | capture :: later =>
      match capture.decode? with
      | none =>
          .error (.plain 400
            ("Invalid URL: Invalid UTF-8 in `" ++ String.ofList capture.name ++ "`"))
      | some text => (decodeAll later).map (text :: ·)

/-- The response when a path has another number of parameters than one. -/
def wrongCount (count : Nat) : HttpResponse :=
  .plain 500
    ("Wrong number of path arguments for `Path`. Expected 1 but got " ++ toString count ++
      ". Note that multiple parameters must be extracted with a tuple `Path<(_, _)>` " ++
      "or a struct `Path<YourParams>`")

/-- The text of the only parameter. -/
def decodeOnly (captures : List Capture) : Except HttpResponse String :=
  match decodeAll captures with
  | .error response => .error response
  | .ok [text] => .ok text
  | .ok texts => .error (wrongCount texts.length)

end Capture

namespace Refusal

/-- The response that carries a refusal. -/
def response (refusal : Refusal) : HttpResponse :=
  .json refusal.status refusal.body

end Refusal

namespace HttpResponse

/-- The response that all is well. -/
def ok : HttpResponse :=
  .json 200 (Json.object [("status", .string "ok")]).render

/-- Either response. -/
def either : Except HttpResponse HttpResponse → HttpResponse
  | .ok response => response
  | .error response => response

end HttpResponse

namespace HttpRequest

/-- What a request to open a WebSocket presents, or the response to one that is amiss. -/
def upgrade (request : HttpRequest) (query : Option (List Char)) :
    Except HttpResponse HandshakeParameters :=
  match HandshakeParameters.ofQuery query with
  | .error name =>
      .error (.plain 400
        ("Failed to deserialize query string: duplicate field `" ++ name ++ "`"))
  | .ok parameters =>
      if request.method != "GET" then
        .error (.plain 405 "Request method must be `GET`")
      else if !request.headerHolds "connection" "upgrade" then
        .error (.plain 400 "Connection header did not include 'upgrade'")
      else if !request.headerIs "upgrade" "websocket" then
        .error (.plain 400 "`Upgrade` header did not include 'websocket'")
      else if !request.headerIs "sec-websocket-version" "13" then
        .error (.plain 400 "`Sec-WebSocket-Version` header did not include '13'")
      else if (request.header? "sec-websocket-key").isNone then
        .error (.plain 400 "`Sec-WebSocket-Key` header missing")
      else
        .ok parameters

end HttpRequest

namespace Relay

/-- What a request presents, if it is one to open a WebSocket and nothing is amiss. -/
def upgrade? (relay : Relay) (request : HttpRequest) : Option HandshakeParameters :=
  match RequestTarget.ofText? request.target with
  | none => none
  | some target =>
      match Resource.find? relay.settings.path target.path with
      | some (.socket, _) => (request.upgrade target.query).toOption
      | _ => none

/-- A fresh id for one who knows the key. -/
def freshId (relay : Relay) (key : String) (random : Octets) : HttpResponse :=
  if relay.settings.keyMatches key then
    .plain 200 (Uuid.ofRandom random)
  else
    Refusal.invalidKey.response

/-- The ids of all clients as a response. -/
def peersResponse (relay : Relay) (key : String) : HttpResponse :=
  match relay.listPeers key with
  | .ok ids => .json 200 (Json.array (ids.map .string)).render
  | .error refusal => refusal.response

/-- Relay the message of a request whose path has at least four parameters. -/
def relayResponse (relay : Relay) (arguments : List String) (body : Octets) :
    Relay × Journal × HttpResponse :=
  match arguments with
  | key :: id :: token :: kind :: _ =>
      match relay.relayRequest ⟨key, id, token, kind, body⟩ with
      | (after, journal, .ok ()) => (after, journal, .ok)
      | (after, journal, .error refusal) => (after, journal, refusal.response)
  | _ => (relay, [], Capture.wrongCount arguments.length)

/-- What a resource answers to a method that it knows. -/
def respond (relay : Relay) (context : AnswerContext) (request : HttpRequest)
    (query : Option (List Char)) (captures : List Capture) :
    Resource → Relay × Journal × HttpResponse
  | .health => (relay, [], .ok)
  | .metrics =>
      (relay, [],
        if context.metricsExported then
          { status := 200, contentType := some "text/plain; version=0.0.4" }
        else
          .empty 404)
  | .socket =>
      (relay, [],
        .either ((request.upgrade query).map fun _ =>
          .plain 426
            ("WebSocket request couldn't be upgraded since no upgrade state was " ++
              "present")))
  | .freshId =>
      (relay, [],
        .either ((Capture.decodeOnly captures).map (relay.freshId · context.random)))
  | .peers =>
      (relay, [], .either ((Capture.decodeOnly captures).map relay.peersResponse))
  | .message =>
      match Capture.decodeAll captures with
      | .error response => (relay, [], response)
      | .ok arguments => relay.relayResponse arguments request.body

/-- What the relay answers to a request. -/
def answer (relay : Relay) (context : AnswerContext) (request : HttpRequest) :
    Relay × Journal × HttpResponse :=
  match RequestTarget.ofText? request.target with
  | none => (relay, [], .empty 400)
  | some target =>
      let found? := Resource.find? relay.settings.path target.path
      let allow := found?.map fun found => ",".intercalate found.1.methods
      if request.method == "OPTIONS" then
        (relay, [], { status := 200, preflight := true, allow })
      else
        match found? with
        | none => (relay, [], .empty 404)
        | some (resource, captures) =>
            if !resource.methods.contains request.method then
              (relay, [], { status := 405, allow })
            else
              let (after, journal, response) :=
                relay.respond context request target.query captures resource
              (after, journal,
                if request.method == "HEAD" then response.withoutBody else response)

end Relay

end SignalRelay
