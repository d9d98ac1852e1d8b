import SignalRelay.Json.Fault

namespace SignalRelay

/-!
# Lexemes of JSON

The readers of blanks, words, strings and numbers.  Each takes the octets still to be
read and answers what it read with the octets that are left, or the first fault.  A
reader that loops takes a bound as well, which is at least the number of octets still
to be read: each round consumes one octet or more.
-/

/-- The result of reading: a value and the octets left, or a fault. -/
abbrev Reading (α : Type) := Except Fault (α × Octets)

namespace Lexeme

/-- Blanks are space, tab, line feed and carriage return. -/
def isBlank (octet : UInt8) : Bool :=
  octet == 0x20 || octet == 0x09 || octet == 0x0A || octet == 0x0D

/-- Drop leading blanks. -/
def skipBlanks (octets : Octets) : Octets :=
  octets.dropWhile isBlank

/-- Whether an octet is a decimal digit. -/
def isDigit (octet : UInt8) : Bool :=
  decide (0x30 ≤ octet ∧ octet ≤ 0x39)

/-- The value of a decimal digit. -/
def digitValue (octet : UInt8) : Nat :=
  octet.toNat - 0x30

/-- Read the rest of a word whose first letter has been consumed. -/
def readWord : List Char → Octets → Except Fault Octets
  | [], rest => .ok rest
  | _ :: _, [] => .error (.after .endInValue [])
  | expected :: word, octet :: rest =>
      if octet = expected.toUInt8 then
        readWord word rest
      else
        .error (.after .misspelledWord rest)

/-! ## Strings -/

/-- The value of a hexadecimal digit. -/
def hexValue? (octet : UInt8) : Option Nat :=
  if 0x30 ≤ octet ∧ octet ≤ 0x39 then
    some (octet.toNat - 0x30)
  else if 0x41 ≤ octet ∧ octet ≤ 0x46 then
    some (octet.toNat - 0x37)
  else if 0x61 ≤ octet ∧ octet ≤ 0x66 then
    some (octet.toNat - 0x57)
  else
    none

/-- Read the four hexadecimal digits of a `\u` escape. -/
def readHexFour : Octets → Reading Nat
  | a :: b :: c :: d :: rest =>
      match hexValue? a, hexValue? b, hexValue? c, hexValue? d with
      | some a, some b, some c, some d => .ok (((a * 16 + b) * 16 + c) * 16 + d, rest)
      | _, _, _, _ => .error (.after .invalidEscape rest)
  | _ => .error (.after .endInString [])

/-- Whether a code unit is the second one of a surrogate pair. -/
def isLowSurrogate (unit : Nat) : Bool :=
  0xDC00 ≤ unit && unit ≤ 0xDFFF

/-- Whether a code unit is the first one of a surrogate pair. -/
def isHighSurrogate (unit : Nat) : Bool :=
  0xD800 ≤ unit && unit ≤ 0xDBFF

/-- Read the second half of a surrogate pair; answer the octets of the character. -/
def readLowSurrogate (high : Nat) : Octets → Reading Octets
  | [] => .error (.after .endInString [])
  | backslash :: rest =>
      if backslash ≠ '\\'.toUInt8 then
        .error (.after .endOfSurrogatePair rest)
      else
        match rest with
        | [] => .error (.after .endInString [])
        | letter :: rest =>
            if letter ≠ 'u'.toUInt8 then
              .error (.after .endOfSurrogatePair rest)
            else
              match readHexFour rest with
              | .error fault => .error fault
              | .ok (low, rest) =>
                  if isLowSurrogate low then
                    let code := (high - 0xD800) * 0x400 + (low - 0xDC00) + 0x10000
                    .ok (String.utf8EncodeChar (Char.ofNat code), rest)
                  else
                    .error (.after .loneSurrogate rest)

/-- Read a `\u` escape after its letter; answer the octets of the character. -/
def readUnicodeEscape (octets : Octets) : Reading Octets :=
  match readHexFour octets with
  | .error fault => .error fault
  | .ok (unit, rest) =>
      if isLowSurrogate unit then
        .error (.after .loneSurrogate rest)
      else if isHighSurrogate unit then
        readLowSurrogate unit rest
      else
        .ok (String.utf8EncodeChar (Char.ofNat unit), rest)

/-- The octet that a one-letter escape stands for. -/
def escapedOctet? (letter : UInt8) : Option UInt8 :=
  if letter = '"'.toUInt8 then some 0x22
  else if letter = '\\'.toUInt8 then some 0x5C
  else if letter = '/'.toUInt8 then some 0x2F
  else if letter = 'b'.toUInt8 then some 0x08
  else if letter = 'f'.toUInt8 then some 0x0C
  else if letter = 'n'.toUInt8 then some 0x0A
  else if letter = 'r'.toUInt8 then some 0x0D
  else if letter = 't'.toUInt8 then some 0x09
  else none

/-- Read an escape after its backslash; answer the octets that it stands for. -/
def readEscape : Octets → Reading Octets
  | [] => .error (.after .endInString [])
  | letter :: rest =>
      match escapedOctet? letter with
      | some octet => .ok ([octet], rest)
      | none =>
          if letter = 'u'.toUInt8 then
            readUnicodeEscape rest
          else
            .error (.after .invalidEscape rest)

/--
Read the content of a string up to its closing quote.  The content read so far is kept
last octet first.
-/
def readContent : (bound : Nat) → (content : Octets) → Octets → Reading Octets
  | 0, _, _ => .error (.after .endInString [])
  | _ + 1, _, [] => .error (.after .endInString [])
  | bound + 1, content, octet :: rest =>
      if octet = '"'.toUInt8 then
        .ok (content.reverse, rest)
      else if octet = '\\'.toUInt8 then
        match readEscape rest with
        | .ok (piece, rest) => readContent bound (piece.reverse ++ content) rest
        | .error fault => .error fault
      else if octet < 0x20 then
        .error (.after .controlCharacter rest)
      else
        readContent bound (octet :: content) rest

/--
Read a string after its opening quote.  Ill-formed UTF-8 is reported only after the
closing quote; its place counts back from there by the content that is not valid.
-/
def readText (bound : Nat) (octets : Octets) : Reading String :=
  match readContent bound [] octets with
  | .error fault => .error fault
  | .ok (content, rest) =>
      match Utf8.decode? content with
      | some text => .ok (text, rest)
      | none =>
          let invalid := content.length - Utf8.validLength content
          .error ⟨.invalidCodePoint, rest.length + invalid, false⟩

/-! ## Numbers -/

/-- The digits at the front, and what follows them. -/
def takeDigits (octets : Octets) : List Nat × Octets :=
  ((octets.takeWhile isDigit).map digitValue, octets.dropWhile isDigit)

/-- Integers are kept exactly up to this value. -/
def greatestSignificand : Nat := Nat.pow 2 64 - 1

/--
Join integer digits to a significand while it fits 64 bits.  Answer the significand and
the number of digits, from the first that does not fit, that were left out.
-/
def joinDigits (significand : Nat) : List Nat → Nat × Nat
  | [] => (significand, 0)
  | digit :: digits =>
      if significand * 10 + digit ≤ greatestSignificand then
        joinDigits (significand * 10 + digit) digits
      else
        (significand, digits.length + 1)

/--
Join digits after the point to a significand while it fits 64 bits; digits from the
first that does not fit are ignored.  Answer the significand and how many were joined.
-/
def joinFraction (significand joined : Nat) : List Nat → Nat × Nat
  | [] => (significand, joined)
  | digit :: digits =>
      if significand * 10 + digit ≤ greatestSignificand then
        joinFraction (significand * 10 + digit) (joined + 1) digits
      else
        (significand, joined)

/-- The number `± significand * 10 ^ power` as a binary64 number. -/
def realNumber (negative : Bool) (significand : Nat) (power : Int) (rest : Octets) :
    Reading JsonNumber :=
  match Magnitude.ofDecimal? significand power with
  | some magnitude => .ok (.real ⟨negative, magnitude⟩, rest)
  | none => .error (.after .numberOutOfRange rest)

/-- Greatest exponent that is looked at digit by digit. -/
def greatestExponent : Nat := Nat.pow 2 31 - 1

/-- An exponent, or the number of digits left when it became greater than every other. -/
def joinExponent (exponent : Nat) : List Nat → Except Nat Nat
  | [] => .ok exponent
  | digit :: digits =>
      if exponent * 10 + digit ≤ greatestExponent then
        joinExponent (exponent * 10 + digit) digits
      else
        .error digits.length

/-- The sign of an exponent, a plus unless written, and what follows it. -/
def readExponentSign : Octets → Bool × Octets
  | [] => (true, [])
  | octet :: rest =>
      if octet = '+'.toUInt8 then (true, rest)
      else if octet = '-'.toUInt8 then (false, rest)
      else (true, octet :: rest)

/-- Read an exponent after its letter and complete the number. -/
def readExponent (negative : Bool) (significand : Nat) (power : Int) (octets : Octets) :
    Reading JsonNumber :=
  let (raised, rest) := readExponentSign octets
  match rest with
  | [] => .error (.after .endInValue [])
  | octet :: following =>
      if isDigit octet then
        let (digits, rest) := takeDigits rest
        match joinExponent 0 digits with
        | .ok exponent =>
            let power := if raised then power + exponent else power - exponent
            realNumber negative significand power rest
        | .error digitsLeft =>
            if significand ≠ 0 ∧ raised then
              .error ⟨.numberOutOfRange, digitsLeft + rest.length, false⟩
            else
              .ok (.real ⟨negative, Magnitude.zero⟩, rest)
      else
        .error (.after .invalidNumber following)

/-- Whether an octet is the letter of an exponent. -/
def isExponentLetter (octet : UInt8) : Bool :=
  octet == 'e'.toUInt8 || octet == 'E'.toUInt8

/-- Read an exponent if there is one, and complete the number. -/
def readPower (negative : Bool) (significand : Nat) (power : Int) :
    Octets → Reading JsonNumber
  | [] => realNumber negative significand power []
  | octet :: rest =>
      if isExponentLetter octet then
        readExponent negative significand power rest
      else
        realNumber negative significand power (octet :: rest)

/-- Read the digits after the point and complete the number. -/
def readFraction (negative : Bool) (significand dropped : Nat) (octets : Octets) :
    Reading JsonNumber :=
  match takeDigits octets with
  | ([], []) => .error (.next .endInValue [])
  | ([], rest) => .error (.next .invalidNumber rest)
  | (digits, rest) =>
      let (significand, joined) := joinFraction significand 0 digits
      readPower negative significand ((dropped : Int) - joined) rest

/--
The number written by an integer alone.  It stays an integer if it fits 64 bits, signed
when negative; minus zero does not.
-/
def integerNumber (negative : Bool) (significand dropped : Nat) (rest : Octets) :
    Reading JsonNumber :=
  if dropped ≠ 0 then
    realNumber negative significand dropped rest
  else if !negative then
    .ok (.integer significand, rest)
  else if significand ≠ 0 ∧ significand ≤ Nat.pow 2 63 then
    .ok (.integer (-significand), rest)
  else
    realNumber true significand 0 rest

/-- Complete a number after its integer digits. -/
def readAfterInteger (negative : Bool) (significand dropped : Nat) :
    Octets → Reading JsonNumber
  | [] => integerNumber negative significand dropped []
  | octet :: rest =>
      if octet = '.'.toUInt8 then
        readFraction negative significand dropped rest
      else if isExponentLetter octet then
        readExponent negative significand dropped rest
      else
        integerNumber negative significand dropped (octet :: rest)

/-- Read a number after its minus sign, if it has one. -/
def readNumber (negative : Bool) : Octets → Reading JsonNumber
  | [] => .error (.after .endInValue [])
  | octet :: rest =>
      if octet = '0'.toUInt8 then
        match takeDigits rest with
        | ([], _) => readAfterInteger negative 0 0 rest
        | _ => .error (.next .invalidNumber rest)
      else if isDigit octet then
        let (digits, rest) := takeDigits rest
        let (significand, dropped) := joinDigits (digitValue octet) digits
        readAfterInteger negative significand dropped rest
      else
        .error (.after .invalidNumber rest)

end Lexeme

end SignalRelay
