import SignalRelay.Network.AddressReader
import SignalRelay.Text.Pieces
import SignalRelay.Url.Label
import SignalRelay.Url.Percent

namespace SignalRelay

/-!
# Hosts in URLs

A host is a domain name or an address.  A name whose last label is a number is an
address of four octets, whose parts may be decimal, octal or hexadecimal and of which
the last one fills all octets that are left.

A name beyond ASCII stands for the ASCII form that the tables of Unicode give to it.  These
tables are not a part of this library: whoever reads a URL brings them along.
-/

/-- Why a URL is refused. -/
inductive UrlError where
  | emptyHost : UrlError
  | invalidPort : UrlError
  | invalidIpv4 : UrlError
  | invalidIpv6 : UrlError
  | invalidDomain : UrlError
  deriving Repr, DecidableEq

namespace UrlError

/-- The wording of a refusal. -/
def text : UrlError → String
  | .emptyHost => "empty host"
  | .invalidPort => "invalid port number"
  | .invalidIpv4 => "invalid IPv4 address"
  | .invalidIpv6 => "invalid IPv6 address"
  | .invalidDomain => "invalid international domain name"

end UrlError

/-- The ASCII form of a name beyond ASCII, if it has one. -/
abbrev NameMapping :=
  String → Option String

/-- The host of a URL. -/
inductive Host where
  | domain : String → Host
  | v4 : Ipv4 → Host
  | v6 : Ipv6 → Host
  deriving Repr, DecidableEq

namespace Host

/-- The text of a host. -/
def text : Host → String
  | .domain name => name
  | .v4 address => address.text
  | .v6 address => "[" ++ address.compressed ++ "]"

/-! ## Addresses of groups -/

/-- The value of a group of one to four hexadecimal digits. -/
def groupOf? (piece : List Char) : Option UInt16 :=
  match AddressReader.readGroup piece with
  | some (group, []) => some group
  | _ => none

/-- The two groups of four decimal octets. -/
def octetGroupsOf? (piece : List Char) : Option (List UInt16) :=
  match AddressReader.readIpv4 piece with
  | some (address, []) => some (AddressReader.groupsOfIpv4 address)
  | _ => none

/-- The groups that pieces stand for; the last piece may be four octets. -/
def groupsOf? : List (List Char) → Option (List UInt16)
  | [] => some []
  | [last] => (groupOf? last).map ([·]) <|> octetGroupsOf? last
  | piece :: rest =>
      (groupOf? piece).bind fun group => (groupsOf? rest).map (group :: ·)

/-- The groups on one side of a double colon, of which there may be none. -/
def sideGroups? (chars : List Char) : Option (List UInt16) :=
  if chars.isEmpty then some [] else groupsOf? (Pieces.cut (· == ':') chars)

/-- The text in front of the first double colon and the text behind it. -/
def cutDoubleColon : List Char → List Char × Option (List Char)
  | ':' :: ':' :: rest => ([], some rest)
  | c :: rest =>
      let (front, back) := cutDoubleColon rest
      (c :: front, back)
  | [] => ([], none)

/-- The address that a text between brackets is. -/
def ipv6Of? (chars : List Char) : Option Ipv6 :=
  match cutDoubleColon chars with
  | (all, none) =>
      (groupsOf? (Pieces.cut (· == ':') all)).bind fun groups =>
        if groups.length = 8 then some (.ofEnds groups []) else none
  | (front, some back) =>
      if front.any (· == '.') then
        none
      else
        (sideGroups? front).bind fun front =>
        (sideGroups? back).bind fun back =>
          if front.length + back.length ≤ 7 then some (.ofEnds front back) else none

/-! ## Addresses of four octets -/

/-- The number that a part is, in the base that its prefix names. -/
def partOf? (part : List Char) : Option Nat :=
  let (base, digits) :=
    match part with
    | '0' :: 'x' :: digits => (16, digits)
    | '0' :: 'X' :: digits => (16, digits)
    | '0' :: digit :: digits => (8, digit :: digits)
    | _ => (10, part)
  if part.isEmpty then
    none
  else if digits.all (AddressReader.isDigit base) then
    some (AddressReader.digitsValue base digits)
  else
    none

/-- The labels of a name; a final dot does not begin another one. -/
def labels (name : List Char) : List (List Char) :=
  let pieces := Pieces.cut (· == '.') name
  if pieces.length > 1 && pieces.getLast? == some [] then pieces.dropLast else pieces

/-- Whether the last label of a name is a number. -/
def endsInNumber (name : List Char) : Bool :=
  match (labels name).getLast? with
  | none => false
  | some last =>
      (!last.isEmpty && last.all (AddressReader.isDigit 10)) || (partOf? last).isSome

/-- The value of octets followed by a last part that fills the rest of four octets. -/
def valueOfParts? : (room : Nat) → List Nat → Option Nat
  | _, [] => none
  | room, [last] => if last < Nat.pow 256 room then some last else none
  | 0, _ :: _ => none
  | room + 1, part :: rest =>
      if part < 256 then
        (valueOfParts? room rest).map (part * Nat.pow 256 room + ·)
      else
        none

/-- The address that a name is. -/
def ipv4Of? (name : List Char) : Option Ipv4 :=
  let parts := (labels name).map partOf?
  if parts.length ≤ 4 && parts.all Option.isSome then
    (valueOfParts? 4 (parts.filterMap id)).map .ofNat
  else
    none

/-! ## Names -/

/-- Whether a character may not stand in a name. -/
def isForbidden (c : Char) : Bool :=
  c.toNat ≤ 0x20 || c.toNat == 0x7F || "%#/:<>?@[\\]^|".toList.contains c

/-- The name that octets are: in small letters, and in its ASCII form if it is beyond ASCII. -/
def nameOf? (names : NameMapping) (octets : Octets) : Option (List Char) :=
  (Utf8.decode? octets).bind fun text =>
    if text.toList.all (fun c => c.toNat < 0x80) then
      let name := text.toList.map Char.toLower
      if name.all (fun c => !isForbidden c) && Label.areProper name then
        some name
      else
        none
    else
      (names text).map String.toList

/-- The host that a text is. -/
def ofChars (names : NameMapping) (chars : List Char) : Except UrlError Host :=
  match chars with
  | [] => .error .emptyHost
  | '[' :: rest =>
      if rest.getLast? == some ']' then
        match ipv6Of? rest.dropLast with
        | some address => .ok (.v6 address)
        | none => .error .invalidIpv6
      else
        .error .invalidIpv6
  | _ =>
      match nameOf? names (Percent.decode (Utf8.encode (String.ofList chars))) with
      | none => .error .invalidDomain
      | some [] => .error .emptyHost
      | some name =>
          if endsInNumber name then
            match ipv4Of? name with
            | some address => .ok (.v4 address)
            | none => .error .invalidIpv4
          else
            .ok (.domain (String.ofList name))

end Host

end SignalRelay
