import SignalRelay.WebSocket.Frame

namespace SignalRelay

/-!
# Assembly of messages

What a client sends comes in frames, each of them masked.  A message begins with a text
or a binary frame and goes on with continuations until the final one.  Whatever breaks
these rules is a violation, after which nothing more is read.
-/

/-- The beginning of a message. -/
structure Assembly where
  isText : Bool
  octets : Octets
  deriving Repr, DecidableEq

/-- What a frame amounts to. -/
inductive Receipt where
  | message : SocketMessage → Receipt
  /-- A part of a message that is not complete. -/
  | incomplete : Assembly → Receipt
  | violation : Receipt
  deriving Repr, DecidableEq

namespace Assembly

/-- Append a piece to a message.  A text must be well-formed as far as it has come. -/
def extend (assembly : Assembly) (final : Bool) (piece : Octets) : Receipt :=
  let octets := assembly.octets ++ piece
  if !assembly.isText then
    if final then .message (.binary octets) else .incomplete { assembly with octets }
  else if final then
    match Utf8.decode? octets with
    | some text => .message (.text text)
    | none => .violation
  else if Utf8.extendable octets then
    .incomplete { assembly with octets }
  else
    .violation

/-- What a control frame amounts to. -/
def control (frame : Frame) : Receipt :=
  if !frame.final || Frame.controlLimit < frame.payload.length then
    .violation
  else
    match frame.opcode with
    | .ping => .message (.ping frame.payload)
    | .pong => .message (.pong frame.payload)
    | .close =>
        match CloseNotice.ofPayload? frame.payload with
        | some notice? => .message (.close notice?)
        | none => .violation
    | _ => .violation

/-- What a frame from a client amounts to, behind the beginning of a message if any. -/
def receive (assembly? : Option Assembly) (frame : Frame) : Receipt :=
  if frame.extended || !frame.masked then
    .violation
  else if frame.opcode.isControl then
    control frame
  else
    match assembly?, frame.opcode with
    | some assembly, .continuation => assembly.extend frame.final frame.payload
    | none, .text => extend ⟨true, []⟩ frame.final frame.payload
    | none, .binary => extend ⟨false, []⟩ frame.final frame.payload
    | _, _ => .violation

end Assembly

end SignalRelay
