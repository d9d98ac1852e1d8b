import SignalRelay.Text.Utf8

namespace SignalRelay

/-!
# Frames

What travels over a WebSocket.  A message is a frame or a sequence of frames; pings,
pongs and closings are frames of their own, which may stand between those of a message.
-/

/-- What a frame is for. -/
inductive Opcode where
  | continuation : Opcode
  | text : Opcode
  | binary : Opcode
  | close : Opcode
  | ping : Opcode
  | pong : Opcode
  | unassigned : Opcode
  deriving Repr, DecidableEq

/-- A frame, with its mask removed. -/
structure Frame where
  /-- Whether it is the last one of its message. -/
  final : Bool
  /-- Whether a bit is set that has no meaning. -/
  extended : Bool
  opcode : Opcode
  masked : Bool
  payload : Octets
  deriving Repr, DecidableEq

/-- Why a connection is closed, as the one who closes it tells. -/
structure CloseNotice where
  code : Nat
  reason : String
  deriving Repr, DecidableEq

/-- A whole message, or something that travels between messages. -/
inductive SocketMessage where
  | text : String → SocketMessage
  | binary : Octets → SocketMessage
  | ping : Octets → SocketMessage
  | pong : Octets → SocketMessage
  | close : Option CloseNotice → SocketMessage
  deriving Repr, DecidableEq

namespace Opcode

/-- The opcode with a number. -/
def ofNumber : Nat → Opcode
  | 0 => .continuation
  | 1 => .text
  | 2 => .binary
  | 8 => .close
  | 9 => .ping
  | 10 => .pong
  | _ => .unassigned

/-- Whether frames with an opcode stand between messages. -/
def isControl : Opcode → Bool
  | .close | .ping | .pong => true
  | _ => false

end Opcode

namespace Frame

/-- A frame whose first octet is given: a final bit, three reserved bits, an opcode. -/
def ofFirst (first : UInt8) (masked : Bool) (payload : Octets) : Frame where
  final := decide (0x80 ≤ first)
  extended := first &&& 0x70 != 0
  opcode := .ofNumber (first &&& 0x0F).toNat
  masked
  payload

/-- A whole message from a client in one frame. -/
def ofClient (opcode : Opcode) (payload : Octets) : Frame :=
  ⟨true, false, opcode, true, payload⟩

/-- How long the payload of a control frame may be. -/
def controlLimit : Nat := 125

end Frame

namespace CloseNotice

/-- The code of a normal closure. -/
def normalCode : Nat := 1000

/-- A normal closure without a reason. -/
def normal : CloseNotice := ⟨normalCode, ""⟩

/-- The answer to a closing with a code that may not be sent. -/
def protocolViolation : CloseNotice := ⟨1002, "Protocol violation"⟩

/-- Whether a code may be sent. -/
def isSendable (code : Nat) : Bool :=
  (1000 ≤ code && code ≤ 1003) || (1007 ≤ code && code ≤ 1013) ||
    (3000 ≤ code && code ≤ 4999)

/-- What a closing is answered with. -/
def answer (notice : CloseNotice) : CloseNotice :=
  if isSendable notice.code then notice else protocolViolation

/-- The payload of a closing: two octets of code and the reason. -/
def payload (notice : CloseNotice) : Octets :=
  UInt8.ofNat (notice.code / 256) :: UInt8.ofNat notice.code :: Utf8.encode notice.reason

/-- Read the payload of a closing, which may be empty. -/
def ofPayload? : Octets → Option (Option CloseNotice)
  | [] => some none
  | [_] => none
  | high :: low :: reason =>
      (Utf8.decode? reason).map fun text => some ⟨high.toNat * 256 + low.toNat, text⟩

end CloseNotice

end SignalRelay
