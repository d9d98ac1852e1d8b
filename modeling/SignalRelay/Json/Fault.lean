import SignalRelay.Json.Basic
import SignalRelay.Text.Quoted

namespace SignalRelay

/-!
# Faults of JSON texts

Why a text was refused, and where.  A place is remembered as the number of octets that
were still unread, together with whether the next one had been looked at; line and
column are counted only when the fault is reported.
-/

/-- What a value was found to be where another form was expected. -/
inductive Found where
  | null : Found
  | bool : Bool → Found
  | number : JsonNumber → Found
  | string : String → Found
  | sequence : Found
  | map : Found
  deriving Repr, DecidableEq

/-- Why a text was refused. -/
inductive FaultReason where
  | endInValue : FaultReason
  | endInList : FaultReason
  | endInObject : FaultReason
  | endInString : FaultReason
  | expectedValue : FaultReason
  | expectedColon : FaultReason
  | expectedCommaOrBracket : FaultReason
  | expectedCommaOrBrace : FaultReason
  | keyNotString : FaultReason
  | trailingComma : FaultReason
  | trailingCharacters : FaultReason
  | tooDeep : FaultReason
  | invalidNumber : FaultReason
  | numberOutOfRange : FaultReason
  | misspelledWord : FaultReason
  | invalidEscape : FaultReason
  | controlCharacter : FaultReason
  | loneSurrogate : FaultReason
  | endOfSurrogatePair : FaultReason
  | invalidCodePoint : FaultReason
  | wrongType : Found → String → FaultReason
  | wrongLength : Nat → String → FaultReason
  | missingField : String → FaultReason
  | duplicateField : String → FaultReason
  deriving Repr, DecidableEq

/-- The classes of faults. -/
inductive FaultClass where
  | syntactic : FaultClass
  | data : FaultClass
  | endOfText : FaultClass
  deriving Repr, DecidableEq

/-- A refusal: the reason, and the place in the text. -/
structure Fault where
  reason : FaultReason
  /-- How many octets had not been consumed. -/
  unread : Nat
  /-- Whether the next octet counts as seen. -/
  looked : Bool
  deriving Repr, DecidableEq

namespace FaultReason

/-- The class of a reason. -/
def faultClass : FaultReason → FaultClass
  | endInValue | endInList | endInObject | endInString => .endOfText
  | wrongType .. | wrongLength .. | missingField .. | duplicateField .. => .data
  | _ => .syntactic

end FaultReason

namespace Fault

/-- A fault after the octets consumed so far. -/
def after (reason : FaultReason) (rest : Octets) : Fault :=
  ⟨reason, rest.length, false⟩

/-- A fault at the next octet, which is not consumed. -/
def next (reason : FaultReason) (rest : Octets) : Fault :=
  ⟨reason, rest.length, true⟩

/-- The offset in the text that a fault points behind. -/
def offset (fault : Fault) (text : Octets) : Nat :=
  let consumed := text.length - fault.unread
  if fault.looked then min text.length (consumed + 1) else consumed

/--
Line and column of an offset.  The line counts from one, and the column is the number
of octets since the last line feed before the offset.
-/
def place (text : Octets) (offset : Nat) : Nat × Nat :=
  let before := text.take offset
  (1 + before.count 0x0A, (before.reverse.takeWhile (· != 0x0A)).length)

end Fault

end SignalRelay
