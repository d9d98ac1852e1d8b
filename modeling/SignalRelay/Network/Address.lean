namespace SignalRelay

/-!
# Network addresses

Addresses of both protocol versions, and socket addresses, with their canonical texts.
-/

/-- An address of four octets. -/
structure Ipv4 where
  octets : Vector UInt8 4
  deriving Repr, DecidableEq

/-- An address of eight groups of sixteen bits. -/
structure Ipv6 where
  groups : Vector UInt16 8
  deriving Repr, DecidableEq

/-- An address and a port; an address of eight groups may name a zone. -/
inductive SocketAddress where
  | v4 : Ipv4 → UInt16 → SocketAddress
  | v6 : Ipv6 → (zone : UInt32) → UInt16 → SocketAddress
  deriving Repr, DecidableEq

namespace Ipv4

/-- The address with the given octets. -/
def ofOctets (first second third fourth : UInt8) : Ipv4 :=
  ⟨#v[first, second, third, fourth]⟩

/-- The address with a given value. -/
def ofNat (value : Nat) : Ipv4 :=
  ofOctets (UInt8.ofNat (value / 0x1000000)) (UInt8.ofNat (value / 0x10000))
    (UInt8.ofNat (value / 0x100)) (UInt8.ofNat value)

/-- The octets in decimal, with dots between them. -/
def text (address : Ipv4) : String :=
  ".".intercalate (address.octets.toList.map fun octet => toString octet.toNat)

end Ipv4

namespace Ipv6

/-- A group in lower-case hexadecimal, without leading zeros. -/
def groupText (group : UInt16) : String :=
  String.ofList (Nat.toDigits 16 group.toNat)

/-- Groups in hexadecimal, with colons between them. -/
def groupsText (groups : List UInt16) : String :=
  ":".intercalate (groups.map groupText)

/-- How many groups in front are zero. -/
def zerosInFront (groups : List UInt16) : Nat :=
  (groups.takeWhile (· == 0)).length

/--
The start and the length of the longest run of zero groups, the first one among equals.
-/
def longestZeros : (start : Nat) → List UInt16 → Nat × Nat
  | start, [] => (start, 0)
  | start, group :: rest =>
      let here := zerosInFront (group :: rest)
      let later := longestZeros (start + 1) rest
      if later.2 ≤ here then (start, here) else later

/-- The groups, with a double colon in place of the longest run of at least two zeros. -/
def compressed (address : Ipv6) : String :=
  let groups := address.groups.toList
  let (start, length) := longestZeros 0 groups
  if length < 2 then
    groupsText groups
  else
    groupsText (groups.take start) ++ "::" ++ groupsText (groups.drop (start + length))

/-- The address of four octets that an address stands for, if its prefix says so. -/
def mapped? (address : Ipv6) : Option Ipv4 :=
  match address.groups.toList with
  | [0, 0, 0, 0, 0, 0xFFFF, high, low] =>
      some (.ofNat (high.toNat * 0x10000 + low.toNat))
  | _ => none

/-- The text of an address; the four octets that it may stand for are shown as such. -/
def text (address : Ipv6) : String :=
  match address.mapped? with
  | some inner => "::ffff:" ++ inner.text
  | none => address.compressed

/-- The address of the first groups, then zeros, then the last groups. -/
def ofEnds (front back : List UInt16) : Ipv6 :=
  let zeros := List.replicate (8 - (front.length + back.length)) 0
  let groups := front ++ zeros ++ back
  ⟨Vector.ofFn fun index => groups.getD index 0⟩

end Ipv6

namespace SocketAddress

/-- The text of a socket address. -/
def text : SocketAddress → String
  | .v4 address port => address.text ++ ":" ++ toString port.toNat
  | .v6 address zone port =>
      "[" ++ address.text ++ (if zone = 0 then "" else "%" ++ toString zone.toNat) ++
        "]:" ++ toString port.toNat

end SocketAddress

end SignalRelay
