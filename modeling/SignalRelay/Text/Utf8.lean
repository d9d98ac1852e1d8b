namespace SignalRelay

/-!
# UTF-8

Text travels as octets.  `Utf8.encode` writes a text, `Utf8.decode?` accepts exactly
well-formed octets, and `Utf8.decodeLossy` reads anything, putting one replacement
character for each ill-formed piece.

A decoder is one pass over the octets.  Between two octets it remembers only the
character it is in the middle of (`Utf8.Pending`), so a text cut anywhere can be
continued later.
-/

/-- A sequence of octets, the first one first. -/
abbrev Octets := List UInt8

namespace Utf8

/-- The octets of a text: those of its characters, one after another. -/
def encode (text : String) : Octets :=
  text.toList.flatMap String.utf8EncodeChar

/-- A character of which only the first octets have been seen. -/
structure Pending where
  /-- How many octets follow the next one. -/
  after : Nat
  /-- Least value the next octet may have. -/
  low : UInt8
  /-- Greatest value the next octet may have. -/
  high : UInt8
  /-- The bits collected so far. -/
  bits : Nat
  deriving Repr, DecidableEq

/-- What one more octet does to a decoder. -/
inductive Advance where
  | char : Char → Advance
  | pending : Pending → Advance
  | refused : Advance
  deriving Repr, DecidableEq

/-- Read the first octet of a character. -/
def start (octet : UInt8) : Advance :=
  if octet < 0x80 then
    .char (Char.ofNat octet.toNat)
  else if 0xC2 ≤ octet ∧ octet ≤ 0xDF then
    .pending ⟨0, 0x80, 0xBF, octet.toNat - 0xC0⟩
  else if octet = 0xE0 then
    .pending ⟨1, 0xA0, 0xBF, 0⟩
  else if octet = 0xED then
    .pending ⟨1, 0x80, 0x9F, 0x0D⟩
  else if 0xE1 ≤ octet ∧ octet ≤ 0xEF then
    .pending ⟨1, 0x80, 0xBF, octet.toNat - 0xE0⟩
  else if octet = 0xF0 then
    .pending ⟨2, 0x90, 0xBF, 0⟩
  else if 0xF1 ≤ octet ∧ octet ≤ 0xF3 then
    .pending ⟨2, 0x80, 0xBF, octet.toNat - 0xF0⟩
  else if octet = 0xF4 then
    .pending ⟨2, 0x80, 0x8F, 4⟩
  else
    .refused

/-- Read one further octet of a character. -/
def resume (pending : Pending) (octet : UInt8) : Advance :=
  if pending.low ≤ octet ∧ octet ≤ pending.high then
    let bits := pending.bits * 64 + (octet.toNat - 0x80)
    match pending.after with
    | 0 => .char (Char.ofNat bits)
    | after + 1 => .pending ⟨after, 0x80, 0xBF, bits⟩
  else
    .refused

/-- Read one octet, between characters or inside one. -/
def advance : Option Pending → UInt8 → Advance
  | none, octet => start octet
  | some pending, octet => resume pending octet

/-- Decode onto the characters already read, kept last one first. -/
def decodeOnto (read : List Char) : Option Pending → Octets → Option (List Char)
  | none, [] => some read.reverse
  | some _, [] => none
  | state, octet :: rest =>
      match advance state octet with
      | .char c => decodeOnto (c :: read) none rest
      | .pending pending => decodeOnto read (some pending) rest
      | .refused => none

/-- The text that well-formed octets encode. -/
def decode? (octets : Octets) : Option String :=
  (decodeOnto [] none octets).map String.ofList

/--
The number of leading octets that are whole characters, given how many octets of
whole characters and how many octets of an unfinished one came before.
-/
def countWhole (whole partly : Nat) : Option Pending → Octets → Nat
  | _, [] => whole
  | state, octet :: rest =>
      match advance state octet with
      | .char _ => countWhole (whole + partly + 1) 0 none rest
      | .pending pending => countWhole whole (partly + 1) (some pending) rest
      | .refused => whole

/-- The length of the longest prefix made of whole characters. -/
def validLength (octets : Octets) : Nat :=
  countWhole 0 0 none octets

/--
Whether no octet has been refused from a state on.  An unfinished character at the
end is no fault: more octets may follow.
-/
def extendsFrom : Option Pending → Octets → Bool
  | _, [] => true
  | state, octet :: rest =>
      match advance state octet with
      | .char _ => extendsFrom none rest
      | .pending pending => extendsFrom (some pending) rest
      | .refused => false

/-- Whether some continuation of the octets is well-formed. -/
def extendable (octets : Octets) : Bool :=
  extendsFrom none octets

/-- The character that stands for an ill-formed piece. -/
def replacement : Char := Char.ofNat 0xFFFD

/--
Lossy decoding.  An octet that cannot continue the character at hand ends it as one
ill-formed piece and is then read as the start of the next character.
-/
def decodeLossyOnto (read : List Char) : Option Pending → Octets → List Char
  | none, [] => read.reverse
  | some _, [] => (replacement :: read).reverse
  | none, octet :: rest =>
      match start octet with
      | .char c => decodeLossyOnto (c :: read) none rest
      | .pending pending => decodeLossyOnto read (some pending) rest
      | .refused => decodeLossyOnto (replacement :: read) none rest
  | some pending, octet :: rest =>
      match resume pending octet with
      | .char c => decodeLossyOnto (c :: read) none rest
      | .pending further => decodeLossyOnto read (some further) rest
      | .refused =>
          match start octet with
          | .char c => decodeLossyOnto (c :: replacement :: read) none rest
          | .pending further => decodeLossyOnto (replacement :: read) (some further) rest
          | .refused => decodeLossyOnto (replacement :: replacement :: read) none rest

/-- The text of any octets, each ill-formed piece replaced. -/
def decodeLossy (octets : Octets) : String :=
  String.ofList (decodeLossyOnto [] none octets)

/-- The order of texts by their octets. -/
def precedes (left right : String) : Bool :=
  decide (encode left < encode right)

end Utf8

end SignalRelay
