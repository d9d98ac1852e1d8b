import SignalRelay.Text.Utf8

namespace SignalRelay

/-!
# Percent-encoding

A character that may not stand for itself is written as its octets, each as a percent
sign and two hexadecimal digits.  Which characters are kept depends on the place.
-/

namespace Percent

/-- A hexadecimal digit in upper case. -/
def digit (value : Nat) : Char :=
  if value < 10 then Char.ofNat ('0'.toNat + value)
  else Char.ofNat ('A'.toNat + (value - 10))

/-- The value of a hexadecimal digit. -/
def digitValue? (octet : UInt8) : Option UInt8 :=
  if '0'.toUInt8 ≤ octet ∧ octet ≤ '9'.toUInt8 then some (octet - '0'.toUInt8)
  else if 'A'.toUInt8 ≤ octet ∧ octet ≤ 'F'.toUInt8 then some (octet - 'A'.toUInt8 + 10)
  else if 'a'.toUInt8 ≤ octet ∧ octet ≤ 'f'.toUInt8 then some (octet - 'a'.toUInt8 + 10)
  else none

/-- The escape of an octet. -/
def encodeOctet (octet : UInt8) : List Char :=
  ['%', digit (octet.toNat / 16), digit (octet.toNat % 16)]

/-- A character, or the escapes of its octets. -/
def encodeChar (keep : Char → Bool) (c : Char) : List Char :=
  if keep c then [c] else (String.utf8EncodeChar c).flatMap encodeOctet

/-- A text in which only some characters stand for themselves. -/
def encode (keep : Char → Bool) (chars : List Char) : List Char :=
  chars.flatMap (encodeChar keep)

/-- Undo all escapes; a percent sign without two digits stands for itself. -/
def decode : Octets → Octets
  | [] => []
  | [a] => [a]
  | [a, b] => [a, b]
  | a :: b :: c :: rest =>
      if a = '%'.toUInt8 then
        match digitValue? b, digitValue? c with
        | some high, some low => (high * 16 + low) :: decode rest
        | _, _ => a :: decode (b :: c :: rest)
      else
        a :: decode (b :: c :: rest)

end Percent

end SignalRelay
