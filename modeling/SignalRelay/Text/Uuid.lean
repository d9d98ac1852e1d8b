import SignalRelay.Text.Utf8

namespace SignalRelay

/-!
# Random identifiers

An identifier is made of sixteen random octets, of which four bits are set to the
version and two to the variant.  It is written in lower-case hexadecimal digits with
four hyphens.
-/

namespace Uuid

/-- The octet at a position of an identifier, out of the random ones. -/
def octetAt (random : Octets) (position : Nat) : UInt8 :=
  let octet := random.getD position 0
  if position = 6 then (octet &&& 0x0F) ||| 0x40
  else if position = 8 then (octet &&& 0x3F) ||| 0x80
  else octet

/-- The text of an octet, with a hyphen in front of some. -/
def pieceAt (random : Octets) (position : Nat) : List Char :=
  let value := (octetAt random position).toNat
  (if position ∈ [4, 6, 8, 10] then ['-'] else []) ++
    [Nat.digitChar (value / 16), Nat.digitChar (value % 16)]

/-- The identifier made of random octets. -/
def ofRandom (random : Octets) : String :=
  String.ofList ((List.range 16).flatMap (pieceAt random))

end Uuid

end SignalRelay
