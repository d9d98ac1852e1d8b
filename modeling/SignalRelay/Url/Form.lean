import SignalRelay.Text.Pieces
import SignalRelay.Url.Percent

namespace SignalRelay

/-!
# Form encoding

Named values in the query of a URL: `name=value` pairs with ampersands between them.
Letters, digits and four marks stand for themselves, a space is written as a plus sign,
and everything else is percent-encoded.
-/

namespace Form

/-- Whether a character stands for itself. -/
def isKept (c : Char) : Bool :=
  c.isAlphanum || c == '*' || c == '-' || c == '.' || c == '_'

/-- The form of one character. -/
def encodeChar (c : Char) : List Char :=
  if c = ' ' then ['+'] else Percent.encodeChar isKept c

/-- The form of a name or a value. -/
def encode (text : String) : List Char :=
  text.toList.flatMap encodeChar

/-- The form of a pair. -/
def encodePair (pair : String × String) : List Char :=
  encode pair.1 ++ ['='] ++ encode pair.2

/-- A query with one more pair at its end. -/
def append (query : List Char) (pair : String × String) : List Char :=
  if query.isEmpty then encodePair pair else query ++ ['&'] ++ encodePair pair

/-- A plus sign stands for a space. -/
def plusToSpace (octet : UInt8) : UInt8 :=
  if octet = '+'.toUInt8 then ' '.toUInt8 else octet

/-- The name or value that a form stands for. -/
def decode (octets : Octets) : String :=
  Utf8.decodeLossy (Percent.decode (octets.map plusToSpace))

/-- The pair that a piece of a query stands for; without a sign the value is empty. -/
def decodePair (piece : Octets) : String × String :=
  let (name, value?) := Pieces.cutOnce (· == '='.toUInt8) piece
  (decode name, decode (value?.getD []))

/-- The pairs of a query; empty pieces are none. -/
def decodePairs (query : Octets) : List (String × String) :=
  ((Pieces.cut (· == '&'.toUInt8) query).filter fun piece => !piece.isEmpty).map
    decodePair

end Form

end SignalRelay
