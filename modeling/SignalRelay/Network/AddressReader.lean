import SignalRelay.Network.Address

namespace SignalRelay

/-!
# Reading socket addresses

A socket address is four decimal octets, or a group address in brackets that may name a
zone, followed by a colon and a port.  Octets have no leading zeros, groups at most four
digits; the last two groups may be written as four octets.
-/

namespace AddressReader

/-- What was read from the front of a text, and the rest. -/
abbrev Step (α : Type) := Option (α × List Char)

/-- The value of a digit, up to base sixteen. -/
def digitValue? (base : Nat) (c : Char) : Option Nat :=
  let value? :=
    if '0' ≤ c ∧ c ≤ '9' then some (c.toNat - '0'.toNat)
    else if 'a' ≤ c ∧ c ≤ 'f' then some (c.toNat - 'a'.toNat + 10)
    else if 'A' ≤ c ∧ c ≤ 'F' then some (c.toNat - 'A'.toNat + 10)
    else none
  value?.filter (· < base)

/-- Whether a character is a digit. -/
def isDigit (base : Nat) (c : Char) : Bool :=
  (digitValue? base c).isSome

/-- The value of a row of digits. -/
def digitsValue (base : Nat) (digits : List Char) : Nat :=
  digits.foldl (fun value c => value * base + (digitValue? base c).getD 0) 0

/-- Read all digits in front, at least one, as a number below a bound. -/
def readNumber (base bound : Nat) (chars : List Char) : Step Nat :=
  let digits := chars.takeWhile (isDigit base)
  let value := digitsValue base digits
  if digits.isEmpty || bound ≤ value then
    none
  else
    some (value, chars.dropWhile (isDigit base))

/-- Read one given character. -/
def readChar (expected : Char) : List Char → Option (List Char)
  | c :: rest => if c = expected then some rest else none
  | [] => none

/-- Read a decimal octet without leading zeros. -/
def readOctet (chars : List Char) : Step UInt8 :=
  let digits := chars.takeWhile (isDigit 10)
  if digits.length > 3 || (digits.length > 1 && digits.head? == some '0') then
    none
  else
    (readNumber 10 0x100 chars).map fun (value, rest) => (UInt8.ofNat value, rest)

/-- Read an octet that follows a dot. -/
def readNextOctet (chars : List Char) : Step UInt8 :=
  (readChar '.' chars).bind readOctet

/-- Read four octets with dots between them. -/
def readIpv4 (chars : List Char) : Step Ipv4 :=
  (readOctet chars).bind fun (first, rest) =>
  (readNextOctet rest).bind fun (second, rest) =>
  (readNextOctet rest).bind fun (third, rest) =>
  (readNextOctet rest).map fun (fourth, rest) =>
    (.ofOctets first second third fourth, rest)

/-- Read a group of at most four hexadecimal digits. -/
def readGroup (chars : List Char) : Step UInt16 :=
  if (chars.takeWhile (isDigit 16)).length > 4 then
    none
  else
    (readNumber 16 0x10000 chars).map fun (value, rest) => (UInt16.ofNat value, rest)

/-- The two groups that four octets fill. -/
def groupsOfIpv4 (address : Ipv4) : List UInt16 :=
  let octet (index : Fin 4) : Nat := address.octets[index].toNat
  [UInt16.ofNat (octet 0 * 0x100 + octet 1), UInt16.ofNat (octet 2 * 0x100 + octet 3)]

/-- Read what stands between two groups: nothing before the first, else a colon. -/
def readSeparator (first : Bool) (chars : List Char) : Option (List Char) :=
  if first then some chars else readChar ':' chars

/--
Read groups, no more than the given number, as many as there are.  Four octets may stand
for the last two of them.  Tells whether they did.
-/
def readGroups : (room : Nat) → (first : Bool) → List Char →
    List UInt16 × Bool × List Char
  | 0, _, chars => ([], false, chars)
  | room + 1, first, chars =>
      let embedded? :=
        if room = 0 then none else (readSeparator first chars).bind readIpv4
      match embedded? with
      | some (address, rest) => (groupsOfIpv4 address, true, rest)
      | none =>
          match (readSeparator first chars).bind readGroup with
          | none => ([], false, chars)
          | some (group, rest) =>
              let (groups, embedded, rest) := readGroups room false rest
              (group :: groups, embedded, rest)

/-- Read a group address: eight groups, or fewer with a double colon among them. -/
def readIpv6 (chars : List Char) : Step Ipv6 :=
  let (front, embedded, rest) := readGroups 8 true chars
  if front.length = 8 then
    some (.ofEnds front [], rest)
  else if embedded then
    none
  else
    ((readChar ':' rest).bind (readChar ':')).map fun rest =>
      let (back, _, rest) := readGroups (7 - front.length) true rest
      (.ofEnds front back, rest)

/-- Read a colon and a port. -/
def readPort (chars : List Char) : Step UInt16 :=
  ((readChar ':' chars).bind (readNumber 10 0x10000)).map fun (value, rest) =>
    (UInt16.ofNat value, rest)

/-- Read a percent sign and the number of a zone. -/
def readZone (chars : List Char) : Step UInt32 :=
  ((readChar '%' chars).bind (readNumber 10 0x100000000)).map fun (value, rest) =>
    (UInt32.ofNat value, rest)

/-- Read four octets and a port. -/
def readSocketV4 (chars : List Char) : Step SocketAddress :=
  (readIpv4 chars).bind fun (address, rest) =>
  (readPort rest).map fun (port, rest) => (.v4 address port, rest)

/-- Read a group address in brackets and a port. -/
def readSocketV6 (chars : List Char) : Step SocketAddress :=
  (readChar '[' chars).bind fun rest =>
  (readIpv6 rest).bind fun (address, rest) =>
    let (zone, rest) := (readZone rest).getD (0, rest)
    (readChar ']' rest).bind fun rest =>
    (readPort rest).map fun (port, rest) => (.v6 address zone port, rest)

end AddressReader

/-- The socket address that a text is; nothing may follow it. -/
def SocketAddress.ofText? (text : String) : Option SocketAddress :=
  let chars := text.toList
  match AddressReader.readSocketV4 chars <|> AddressReader.readSocketV6 chars with
  | some (address, []) => some address
  | _ => none

end SignalRelay
