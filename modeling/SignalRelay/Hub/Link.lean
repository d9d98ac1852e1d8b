import SignalRelay.Relay.Session
import SignalRelay.Relay.Writer

namespace SignalRelay

/-!
# Links

A connection together with what serves it: the line to the peer, the endpoint, the
session that is read from it, and the writer.  A link is released when neither the
session nor the writer is left.
-/

/-- What a peer sees of a link. -/
inductive Delivery where
  | message : SocketMessage → Delivery
  /-- The relay has let go of the connection. -/
  | endOfStream : Delivery
  deriving Repr, DecidableEq

/-- A connection that is served. -/
structure Link where
  line : Line := {}
  endpoint : Endpoint := {}
  session : Option Session := none
  writer : Writer := .waiting
  /-- When the connection is to be closed, if it only awaits that. -/
  closeAt : Option Nat := none
  released : Bool := false
  /-- What the peer got and has not collected. -/
  delivered : List Delivery := []
  deriving Repr, DecidableEq

namespace Link

/-- Write what is buffered. -/
def flush (link : Link) : Link × WriteResult :=
  let (endpoint, written, result) := link.endpoint.flush link.line
  ({ link with endpoint, delivered := link.delivered ++ written.map .message }, result)

/-- Attempt to write an item for the first time. -/
def attempt (link : Link) : Outgoing → Link × WriteResult
  | .text text =>
      match link.endpoint.beginText text with
      | some endpoint => flush { link with endpoint }
      | none => (link, .failed)
  | .close => flush { link with endpoint := link.endpoint.beginClose }

/-- Go on with an item that could not be written at once. -/
def resumeWriting (link : Link) : Link :=
  match link.writer with
  | .writing item =>
      let (link, result) := link.flush
      { link with writer := .after item result }
  | _ => link

/-- Write what is in the outbox, until nothing is left or the line takes no more. -/
def writeAll (link : Link) (outbox : Outbox) : Link × Outbox :=
  match link.writer with
  | .waiting =>
      match _taken : outbox.next? with
      | some (item, rest) =>
          let (link, result) := link.attempt item
          writeAll { link with writer := .after item result } rest
      | none => (link, outbox)
  | .writing _ => (link, outbox)
  | .stopped => (link, outbox.discard)
termination_by outbox.pending
decreasing_by exact Outbox.pending_of_next? _taken

/-- Let the writer go on as far as it can. -/
def pump (link : Link) (outbox : Outbox) : Link × Outbox :=
  link.resumeWriting.writeAll outbox

/-- Let go of the connection when nothing serves it any more. -/
def release (link : Link) : Link :=
  if link.session.isNone && link.writer == .stopped && !link.released then
    { link with released := true, delivered := link.delivered ++ [.endOfStream] }
  else
    link

/-- What reading a message gives to the session. -/
def readResultOf : SocketMessage → ReadResult
  | .text text => .text (Utf8.encode text)
  | .binary octets => .binary octets
  | .ping _ => .ping
  | .pong _ => .pong
  | .close _ => .close

/-- What reading gives when it fails once and can then not go on. -/
def lost : List ReadResult := [.failure, .ended]

/-- Write answers that are due before reading on; reading fails if that fails. -/
def flushReplies (link : Link) : Link × List ReadResult :=
  if link.endpoint.reply.isSome || link.endpoint.flushDue then
    match link.flush with
    | (link, .done) => (link, [])
    | (link, .blocked) =>
        ({ link with endpoint := { link.endpoint with flushDue := true } }, [])
    | (link, .failed) => (link, lost)
  else
    (link, [])

/-- Read a message.  Nothing is read after a closing. -/
def acceptMessage (link : Link) (message : SocketMessage) : Link × List ReadResult :=
  let link := { link with endpoint := link.endpoint.accept message }
  match message with
  | .close _ => (link, [.close])
  | _ =>
      let (link, more) := link.flushReplies
      (link, readResultOf message :: more)

/-- Read a frame. -/
def readFrame (link : Link) (frame : Frame) : Link × List ReadResult :=
  match Assembly.receive link.endpoint.assembly frame with
  | .message message => link.acceptMessage message
  | .incomplete assembly =>
      ({ link with endpoint := { link.endpoint with assembly := some assembly } }, [])
  | .violation => (link, lost)

/-- Read that the peer sends no more. -/
def readEnd (link : Link) : Link × List ReadResult :=
  ({ link with endpoint := link.endpoint.finish }, lost)

/-- Fail to read; the kind of failure tells whether the connection was torn down. -/
def readFailure (reset : Bool) (link : Link) : Link × List ReadResult :=
  (link, if reset then [.reset] else lost)

end Link

end SignalRelay
