import SignalRelay.Json.Fault
import SignalRelay.Json.Printer

namespace SignalRelay

/-!
# Reports of faults

The wording of each reason, and the line and column behind it.
-/

namespace Found

/-- How a report names what was found. -/
def text : Found → String
  | .null => "null"
  | .bool true => "boolean `true`"
  | .bool false => "boolean `false`"
  | .number (.integer value) =>
      "integer `" ++ String.ofList (Json.numberText (.integer value)) ++ "`"
  | .number (.real value) =>
      "floating point `" ++ String.ofList (Json.numberText (.real value)) ++ "`"
  | .string value => "string " ++ Quoted.quote value
  | .sequence => "sequence"
  | .map => "map"

end Found

namespace FaultReason

/-- The wording of a reason. -/
def text : FaultReason → String
  | .endInValue => "EOF while parsing a value"
  | .endInList => "EOF while parsing a list"
  | .endInObject => "EOF while parsing an object"
  | .endInString => "EOF while parsing a string"
  | .expectedValue => "expected value"
  | .expectedColon => "expected `:`"
  | .expectedCommaOrBracket => "expected `,` or `]`"
  | .expectedCommaOrBrace => "expected `,` or `\x7d`"
  | .keyNotString => "key must be a string"
  | .trailingComma => "trailing comma"
  | .trailingCharacters => "trailing characters"
  | .tooDeep => "recursion limit exceeded"
  | .invalidNumber => "invalid number"
  | .numberOutOfRange => "number out of range"
  | .misspelledWord => "expected ident"
  | .invalidEscape => "invalid escape"
  | .controlCharacter =>
      "control character (\\u0000-\\u001F) found while parsing a string"
  | .loneSurrogate => "lone leading surrogate in hex escape"
  | .endOfSurrogatePair => "unexpected end of hex escape"
  | .invalidCodePoint => "invalid unicode code point"
  | .wrongType found expected =>
      "invalid type: " ++ found.text ++ ", expected " ++ expected
  | .wrongLength length expected =>
      "invalid length " ++ toString length ++ ", expected " ++ expected
  | .missingField name => "missing field `" ++ name ++ "`"
  | .duplicateField name => "duplicate field `" ++ name ++ "`"

end FaultReason

namespace Fault

/-- The report of a fault in a text. -/
def report (fault : Fault) (text : Octets) : String :=
  let (line, column) := place text (fault.offset text)
  fault.reason.text ++ " at line " ++ toString line ++ " column " ++ toString column

end Fault

end SignalRelay
