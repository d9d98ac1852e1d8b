import SignalRelay.Proofs.Json.Lexeme

namespace SignalRelay

/-!
# The texts of a value

A value has many texts: blanks may stand around every lexeme, a character of a string may be
escaped in several ways, and the members of an object may come in any order and more than once.
Here a value stands for what is written, with its members as they come.

A phrase is a relation between octets and what is left of them behind it.
-/

/-- Octets, and what follows them behind a phrase. -/
abbrev Phrase := Octets → Octets → Prop

namespace Grammar

open Json Lexeme Utf8

/-- Blanks in any number. -/
def Blanks : Phrase := fun octets rest =>
  ∃ blanks : Octets, (∀ octet ∈ blanks, octet ∈ octetsOf [' ', '\t', '\n', '\r']) ∧
    octets = blanks ++ rest

/-- A phrase with blanks around it. -/
def Padded (phrase : Phrase) : Phrase := fun octets rest =>
  ∃ inside after, Blanks octets inside ∧ phrase inside after ∧ Blanks after rest

/-! ## Strings -/

/-- A letter that may follow a backslash, and the character that it then stands for. -/
def shortEscapes : List (Char × Char) :=
  [('"', '"'), ('\\', '\\'), ('/', '/'), ('b', '\x08'), ('f', '\x0c'), ('n', '\n'),
    ('r', '\r'), ('t', '\t')]

/-- A hexadecimal digit of either case. -/
def HexDigit (value : Nat) (digit : Char) : Prop :=
  "0123456789abcdef".toList[value]? = some digit ∨
    "0123456789ABCDEF".toList[value]? = some digit

/-- A code unit in four hexadecimal digits behind a backslash and a letter. -/
def CodeUnit (unit : Nat) : Phrase := fun octets rest =>
  ∃ a b c d first second third fourth,
    HexDigit a first ∧ HexDigit b second ∧ HexDigit c third ∧ HexDigit d fourth ∧
      unit = ((a * 16 + b) * 16 + c) * 16 + d ∧
      octets = octetsOf ['\\', 'u', first, second, third, fourth] ++ rest

/-- A character of a string: as it is, unless it has to be escaped; behind a backslash; or as one
code unit or two. -/
inductive Character (c : Char) : Phrase where
  | plain
      {rest : Octets}
      (notQuote : c ≠ '"')
      (notBackslash : c ≠ '\\')
      (notControl : 0x20 ≤ c.toNat) :
      Character c (String.utf8EncodeChar c ++ rest) rest
  | short
      {letter : Char}
      {rest : Octets}
      (listed : (letter, c) ∈ shortEscapes) :
      Character c (octetsOf ['\\', letter] ++ rest) rest
  | unit
      {octets rest : Octets}
      (unit : CodeUnit c.toNat octets rest) :
      Character c octets rest
  | pair
      {high low : Nat}
      {octets between rest : Octets}
      (highUnit : CodeUnit high octets between)
      (lowUnit : CodeUnit low between rest)
      (isHigh : 0xD800 ≤ high ∧ high ≤ 0xDBFF)
      (isLow : 0xDC00 ≤ low ∧ low ≤ 0xDFFF)
      (code : c.toNat = (high - 0xD800) * 0x400 + (low - 0xDC00) + 0x10000) :
      Character c octets rest

/-- Characters up to the closing quote, and the quote. -/
def Characters : List Char → Phrase
  | [] => fun octets rest => octets = '"'.toUInt8 :: rest
  | c :: later => fun octets rest =>
      ∃ between, Character c octets between ∧ Characters later between rest

/-- A string between quotes. -/
def Quoted (text : String) : Phrase := fun octets rest =>
  ∃ inside, octets = '"'.toUInt8 :: inside ∧ Characters text.toList inside rest

/-! ## Values -/

/-- A member with blanks around it. -/
def Member (key : String) (value : Phrase) : Phrase := fun octets rest =>
  ∃ colon later, Padded (Quoted key) octets colon ∧ colon = ':'.toUInt8 :: later ∧
    Padded value later rest

mutual

/-- A value whose numbers are integers that fit. -/
def Value : Json → Phrase
  | .null => fun octets rest => octets = octetsOf "null".toList ++ rest
  | .bool true => fun octets rest => octets = octetsOf "true".toList ++ rest
  | .bool false => fun octets rest => octets = octetsOf "false".toList ++ rest
  | .number (.integer value) => fun octets rest =>
      (JsonNumber.integer value).Fits ∧
        octets = octetsOf (numberText (.integer value)) ++ rest
  | .number (.real _) => fun _ _ => False
  | .string text => Quoted text
  | .array [] => fun octets rest =>
      ∃ inside, octets = '['.toUInt8 :: inside ∧ Blanks inside (']'.toUInt8 :: rest)
  | .array (item :: items) => fun octets rest =>
      ∃ inside later, octets = '['.toUInt8 :: inside ∧
        Padded (Value item) inside later ∧ Items items later rest
  | .object [] => fun octets rest =>
      ∃ inside, octets = '{'.toUInt8 :: inside ∧ Blanks inside ('}'.toUInt8 :: rest)
  | .object ((key, value) :: members) => fun octets rest =>
      ∃ inside later, octets = '{'.toUInt8 :: inside ∧
        Member key (Value value) inside later ∧ Members members later rest

/-- Further elements of an array, and its end. -/
def Items : List Json → Phrase
  | [] => fun octets rest => octets = ']'.toUInt8 :: rest
  | item :: items => fun octets rest =>
      ∃ inside later, octets = ','.toUInt8 :: inside ∧
        Padded (Value item) inside later ∧ Items items later rest

/-- Further members of an object, and its end. -/
def Members : List (String × Json) → Phrase
  | [] => fun octets rest => octets = '}'.toUInt8 :: rest
  | (key, value) :: members => fun octets rest =>
      ∃ inside later, octets = ','.toUInt8 :: inside ∧
        Member key (Value value) inside later ∧ Members members later rest

end

end Grammar

/-- The octets are a text of a value, with blanks around it. -/
def Json.IsWritten (value : Json) (octets : Octets) : Prop :=
  Grammar.Padded (Grammar.Value value) octets []

namespace Json

mutual

/-- The value that a value stands for when the last of several members with one key counts. -/
def settled : Json → Json
  | .array items => .array (settledItems items)
  | .object members => ofMembers (settledMembers members)
  | value => value

def settledItems : List Json → List Json
  | [] => []
  | item :: rest => settled item :: settledItems rest

def settledMembers : List (String × Json) → List (String × Json)
  | [] => []
  | (key, value) :: rest => (key, settled value) :: settledMembers rest

end

end Json

end SignalRelay
