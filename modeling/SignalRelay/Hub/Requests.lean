import SignalRelay.Http.Answer
import SignalRelay.Hub.Basic

namespace SignalRelay

/-!
# Requests to the hub

A request that opens a WebSocket makes a link.  Any other is answered at once.
-/

namespace Hub

/-- Answer a request. -/
def answer (hub : Hub) (context : AnswerContext) (request : HttpRequest) :
    Hub × Journal × HttpResponse :=
  let (relay, journal, response) := hub.relay.answer context request
  ({ hub with relay }.settle, journal, response)

/-- Serve a request over a line that may become a WebSocket. -/
def connect (hub : Hub) (address : Option SocketAddress) (context : AnswerContext)
    (request : HttpRequest) : Hub × Journal × Except HttpResponse ConnectionId :=
  match RequestTarget.lineRefusal? request.target, hub.relay.upgrade? request with
  | some status, _ => (hub, [], .error (.empty status))
  | none, some parameters =>
      let (hub, connection, journal) := hub.dial address parameters
      (hub, journal, .ok connection)
  | none, none =>
      let (hub, journal, response) := hub.answer context request
      (hub, journal, .error response)

end Hub

end SignalRelay
