import SignalRelay.Relay.Outbox
import SignalRelay.WebSocket.Endpoint

namespace SignalRelay

/-!
# Writers

The writer of a connection takes what is in its outbox, one item at a time, and writes
it.  It stops when a text cannot be written, and after a closing in any case.
-/

/-- What a writer is doing. -/
inductive Writer where
  | waiting : Writer
  | writing : Outgoing → Writer
  | stopped : Writer
  deriving Repr, DecidableEq

namespace Writer

/-- What a writer does after an attempt to write an item. -/
def after (item : Outgoing) : WriteResult → Writer
  | .blocked => .writing item
  | .failed => .stopped
  | .done =>
      match item with
      | .text _ => .waiting
      | .close => .stopped

end Writer

end SignalRelay
