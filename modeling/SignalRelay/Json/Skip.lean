import SignalRelay.Json.Reader

namespace SignalRelay

/-!
# Skipping JSON values

A value that nobody asks for is checked more loosely than one that is kept: nesting is
unlimited, numbers may be out of range, and neither surrogates nor UTF-8 are checked in
its strings.  The brackets still open are kept on a stack.
-/

namespace Skip

open Lexeme

/-- The two kinds of brackets. -/
inductive Bracket where
  | list : Bracket
  | object : Bracket
  deriving Repr, DecidableEq

namespace Bracket

/-- The octet that closes a bracket. -/
def closing : Bracket → UInt8
  | .list => ']'.toUInt8
  | .object => '}'.toUInt8

/-- The fault of a text that ends inside a bracket. -/
def endReason : Bracket → FaultReason
  | .list => .endInList
  | .object => .endInObject

/-- The fault of a value that neither a comma nor the closing bracket follows. -/
def separatorReason : Bracket → FaultReason
  | .list => .expectedCommaOrBracket
  | .object => .expectedCommaOrBrace

end Bracket

/-- Skip an escape after its backslash. -/
def skipEscape : Octets → Except Fault Octets
  | [] => .error (.after .endInString [])
  | letter :: rest =>
      if (escapedOctet? letter).isSome then
        .ok rest
      else if letter = 'u'.toUInt8 then
        match readHexFour rest with
        | .error fault => .error fault
        | .ok (_, rest) => .ok rest
      else
        .error (.after .invalidEscape rest)

/-- Skip a string after its opening quote; a control is not consumed. -/
def skipText : (bound : Nat) → Octets → Except Fault Octets
  | 0, _ => .error (.after .endInString [])
  | _ + 1, [] => .error (.after .endInString [])
  | bound + 1, octet :: rest =>
      if octet = '"'.toUInt8 then
        .ok rest
      else if octet = '\\'.toUInt8 then
        match skipEscape rest with
        | .error fault => .error fault
        | .ok rest => skipText bound rest
      else if octet < 0x20 then
        .error (.after .controlCharacter (octet :: rest))
      else
        skipText bound rest

/-- Skip the digits of an exponent, at least one. -/
def skipExponentDigits : Octets → Except Fault Octets
  | [] => .error (.after .invalidNumber [])
  | octet :: rest =>
      if isDigit octet then
        .ok (rest.dropWhile isDigit)
      else
        .error (.after .invalidNumber rest)

/-- Skip an exponent if there is one. -/
def skipPower : Octets → Except Fault Octets
  | [] => .ok []
  | octet :: rest =>
      if isExponentLetter octet then
        skipExponentDigits (readExponentSign rest).2
      else
        .ok (octet :: rest)

/-- Skip the digits after a point, at least one, and an exponent. -/
def skipFraction : Octets → Except Fault Octets
  | [] => .error (.next .invalidNumber [])
  | octet :: rest =>
      if isDigit octet then
        skipPower (rest.dropWhile isDigit)
      else
        .error (.next .invalidNumber (octet :: rest))

/-- Skip what follows the integer digits of a number. -/
def skipAfterInteger : Octets → Except Fault Octets
  | [] => .ok []
  | octet :: rest =>
      if octet = '.'.toUInt8 then
        skipFraction rest
      else
        skipPower (octet :: rest)

/-- Skip a number after its minus sign, if it has one. -/
def skipNumber : Octets → Except Fault Octets
  | [] => .error (.after .invalidNumber [])
  | octet :: rest =>
      if octet = '0'.toUInt8 then
        match takeDigits rest with
        | ([], _) => skipAfterInteger rest
        | _ => .error (.next .invalidNumber rest)
      else if isDigit octet then
        skipAfterInteger (rest.dropWhile isDigit)
      else
        .error (.after .invalidNumber rest)

/-- What skipping one lexeme of a value leads to. -/
inductive Start where
  /-- A whole value was skipped. -/
  | whole : Octets → Start
  /-- A bracket was opened. -/
  | opened : Bracket → Octets → Start
  deriving Repr, DecidableEq

/-- Wrap the end of a whole value. -/
def wholeValue : Except Fault Octets → Except Fault Start
  | .error fault => .error fault
  | .ok rest => .ok (.whole rest)

/-- Skip a scalar, or the opening bracket of an array or object. -/
def skipStart (bound : Nat) (octets : Octets) : Except Fault Start :=
  match skipBlanks octets with
  | [] => .error (.next .endInValue [])
  | octet :: rest =>
      if octet = 'n'.toUInt8 then
        wholeValue (readWord "ull".toList rest)
      else if octet = 't'.toUInt8 then
        wholeValue (readWord "rue".toList rest)
      else if octet = 'f'.toUInt8 then
        wholeValue (readWord "alse".toList rest)
      else if octet = '-'.toUInt8 then
        wholeValue (skipNumber rest)
      else if isDigit octet then
        wholeValue (skipNumber (octet :: rest))
      else if octet = '"'.toUInt8 then
        wholeValue (skipText bound rest)
      else if octet = '['.toUInt8 then
        .ok (.opened .list rest)
      else if octet = '{'.toUInt8 then
        .ok (.opened .object rest)
      else
        .error (.next .expectedValue (octet :: rest))

/-- Skip the key and the colon that precede a value inside an object. -/
def skipKey (bound : Nat) (octets : Octets) : Except Fault Octets :=
  match skipBlanks octets with
  | [] => .error (.next .endInObject [])
  | octet :: rest =>
      if octet = '"'.toUInt8 then
        match skipText bound rest with
        | .error fault => .error fault
        | .ok rest => Json.readColon rest
      else
        .error (.next .keyNotString (octet :: rest))

/-- Skip what precedes a value inside a bracket. -/
def skipLead (bracket : Bracket) (bound : Nat) (octets : Octets) : Except Fault Octets :=
  match bracket with
  | .list => .ok octets
  | .object => skipKey bound octets

/-- Where a skipper stands between two lexemes. -/
inductive Stage where
  /-- A value has to follow. -/
  | value : Stage
  /-- A bracket has just been opened. -/
  | opened : Stage
  /-- A value has just ended. -/
  | ended : Stage
  deriving Repr, DecidableEq

/--
Skip up to the end of the outermost value.  `bound` is at least twice the number of
octets left: only entering a bracket's first value consumes none.
-/
def skipFrom : (bound : Nat) → Stage → List Bracket → Octets → Except Fault Octets
  | _, .ended, [], rest => .ok rest
  | _, .opened, [], rest => .ok rest
  | 0, _, _, rest => .error (.next .endInValue rest)
  | bound + 1, .value, stack, octets =>
      match skipStart bound octets with
      | .error fault => .error fault
      | .ok (.whole rest) => skipFrom bound .ended stack rest
      | .ok (.opened bracket rest) => skipFrom bound .opened (bracket :: stack) rest
  | bound + 1, .opened, bracket :: stack, octets =>
      match skipBlanks octets with
      | [] => .error (.next bracket.endReason [])
      | octet :: rest =>
          if octet = bracket.closing then
            skipFrom bound .ended stack rest
          else
            match skipLead bracket bound (octet :: rest) with
            | .error fault => .error fault
            | .ok rest => skipFrom bound .value (bracket :: stack) rest
  | bound + 1, .ended, bracket :: stack, octets =>
      match skipBlanks octets with
      | [] => .error (.next bracket.endReason [])
      | octet :: rest =>
          if octet = ','.toUInt8 then
            match skipLead bracket bound rest with
            | .error fault => .error fault
            | .ok rest => skipFrom bound .value (bracket :: stack) rest
          else if octet = bracket.closing then
            skipFrom bound .ended stack rest
          else
            .error (.next bracket.separatorReason (octet :: rest))

/-- Skip a value. -/
def skipValue (bound : Nat) (octets : Octets) : Except Fault Octets :=
  skipFrom (2 * bound + 1) .value [] octets

end Skip

end SignalRelay
