import SignalRelay.WebSocket.Assembly

namespace SignalRelay

/-!
# The endpoint of a WebSocket

The relay's end of a connection.  What is sent is buffered, and written when the line
takes it.  A ping is answered with a pong.  A closing by the peer is answered with a
closing, and after a closing by either side no more messages are sent.
-/

/-- How far the closing of a connection has come. -/
inductive ClosingPhase where
  | opened : ClosingPhase
  | closedByPeer : ClosingPhase
  | closedByRelay : ClosingPhase
  | finished : ClosingPhase
  deriving Repr, DecidableEq

/-- The line that messages are written to. -/
structure Line where
  /-- Whether it takes nothing for now. -/
  stalled : Bool := false
  /-- Whether every attempt to write fails. -/
  broken : Bool := false
  deriving Repr, DecidableEq

/-- How an attempt to write ends. -/
inductive WriteResult where
  | done : WriteResult
  | blocked : WriteResult
  | failed : WriteResult
  deriving Repr, DecidableEq

/-- The relay's end of a connection. -/
structure Endpoint where
  phase : ClosingPhase := .opened
  assembly : Option Assembly := none
  /-- The answer to a ping or to a closing, until it is buffered. -/
  reply : Option SocketMessage := none
  /-- Whether an answer is waiting in the buffer. -/
  flushDue : Bool := false
  buffer : List SocketMessage := []
  deriving Repr, DecidableEq

namespace Endpoint

/-- Put a message into the buffer. -/
def enqueue (message : SocketMessage) (endpoint : Endpoint) : Endpoint :=
  { endpoint with buffer := endpoint.buffer ++ [message] }

/-- Put the answer that is due into the buffer. -/
def enqueueReply (endpoint : Endpoint) : Endpoint :=
  { endpoint with buffer := endpoint.buffer ++ endpoint.reply.toList, reply := none }

/-- The endpoint when all that was buffered is written. -/
def drained (endpoint : Endpoint) : Endpoint :=
  { endpoint with
    phase := if endpoint.phase = .closedByPeer then .finished else endpoint.phase
    flushDue := false
    buffer := [] }

/-- Write what is buffered; also tells what was written. -/
def flush (line : Line) (endpoint : Endpoint) :
    Endpoint × List SocketMessage × WriteResult :=
  let full := endpoint.enqueueReply
  if full.buffer.isEmpty then
    (full.drained, [], .done)
  else if line.broken then
    (full, [], .failed)
  else if line.stalled then
    (full, [], .blocked)
  else
    (full.drained, full.buffer, .done)

/-- Begin to send a text; after a closing there is nothing to send it with. -/
def beginText (text : String) (endpoint : Endpoint) : Option Endpoint :=
  if endpoint.phase = .opened then some (endpoint.enqueue (.text text)) else none

/-- Begin to close; after a closing only what is buffered is left to write. -/
def beginClose (endpoint : Endpoint) : Endpoint :=
  if endpoint.phase = .opened then
    { endpoint.enqueue (.close (some .normal)) with phase := .closedByRelay }
  else
    endpoint

/-- Take note of a message: it is complete, and the answer that it calls for is due. -/
def accept (message : SocketMessage) (endpoint : Endpoint) : Endpoint :=
  match message with
  | .text _ | .binary _ => { endpoint with assembly := none }
  | .ping payload => { endpoint with reply := some (.pong payload) }
  | .pong _ => endpoint
  | .close notice? =>
      { endpoint with
        phase := .closedByPeer
        reply := some (.close (notice?.map CloseNotice.answer)) }

/-- Take note that the peer sends no more. -/
def finish (endpoint : Endpoint) : Endpoint :=
  { endpoint with phase := .finished }

end Endpoint

end SignalRelay
