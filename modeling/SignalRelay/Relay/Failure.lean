import SignalRelay.Json.Printer

namespace SignalRelay

/-!
# Failures of the relay

The failures that the relay tells apart, their wording, the label under which they are
counted, and the refusal that a request gets for them.
-/

/-- A failure. -/
inductive RelayError where
  /-- A message that the relay cannot act on. -/
  | protocol : String → RelayError
  /-- Credentials that do not match. -/
  | authentication : String → RelayError
  /-- No room for more clients than the given number. -/
  | capacity : Nat → RelayError
  /-- A message that could not be handed to a connection. -/
  | transport : String → RelayError
  /-- A destination that is not registered. -/
  | routing : String → RelayError
  deriving Repr, DecidableEq

/-- The refusal of a request: a status, and the reason in the body. -/
structure Refusal where
  status : Nat
  reason : String
  deriving Repr, DecidableEq

namespace RelayError

/-- The wording of a failure. -/
def text : RelayError → String
  | .protocol detail => "protocol error: " ++ detail
  | .authentication detail => "authentication failed: " ++ detail
  | .capacity limit => "connection limit of " ++ toString limit ++ " clients reached"
  | .transport detail => "transport error: " ++ detail
  | .routing id => "destination " ++ id ++ " is not registered"

/-- The label under which a failure is counted. -/
def label : RelayError → String
  | .protocol _ => "protocol"
  | .authentication _ => "auth"
  | .capacity _ => "capacity"
  | .transport _ => "transport"
  | .routing _ => "routing"

/-- The refusal of a request that fails. -/
def refusal : RelayError → Refusal
  | .protocol _ => ⟨400, "invalid_message"⟩
  | .authentication _ => ⟨401, "unauthorized"⟩
  | .capacity _ => ⟨503, "capacity"⟩
  | .transport _ => ⟨502, "transport"⟩
  | .routing _ => ⟨404, "destination_not_found"⟩

end RelayError

namespace Refusal

/-- The body of a refusal. -/
def body (refusal : Refusal) : String :=
  (Json.object [("success", .bool false), ("reason", .string refusal.reason)]).render

end Refusal

end SignalRelay
