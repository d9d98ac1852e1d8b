import SignalRelay.Json.Basic
import SignalRelay.Number.Shortest

namespace SignalRelay

/-!
# Writing JSON

Values are written without blanks.  A string escapes the quote, the backslash and the
controls and nothing else.  A binary64 number is written with the fewest digits that
read back.
-/

namespace Json

/-- When a number is written without an exponent: for the powers of its first digit from
`least` up to and without `bound`. -/
structure NumberLayout where
  least : Int
  bound : Int
  deriving Repr, DecidableEq

/-- Positional from `0.00001` up to sixteen digits before the point. -/
def numberLayout : NumberLayout := ⟨-5, 16⟩

/-- Digits without an exponent; there is a digit on either side of the point. -/
def positional (digits : List Char) (power : Int) : List Char :=
  if power < 0 then
    ['0', '.'] ++ List.replicate (-power - 1).toNat '0' ++ digits
  else
    let places := power.toNat + 1
    let whole := digits.take places
    let fraction := digits.drop places
    whole ++ List.replicate (places - whole.length) '0' ++ ['.'] ++
      (if fraction.isEmpty then ['0'] else fraction)

/-- Digits with one before the point, and an exponent with its sign. -/
def scientific (digits : List Char) (power : Int) : List Char :=
  let fraction := digits.drop 1
  digits.take 1 ++ (if fraction.isEmpty then [] else '.' :: fraction) ++ ['e'] ++
    (if power < 0 then ['-'] else ['+']) ++ Nat.toDigits 10 power.natAbs

/-- The text of a magnitude. -/
def magnitudeText (magnitude : Magnitude) : List Char :=
  if magnitude.significand = 0 then
    ['0', '.', '0']
  else
    let decimal := magnitude.shortest
    if numberLayout.least ≤ decimal.power ∧ decimal.power < numberLayout.bound then
      positional decimal.digits decimal.power
    else
      scientific decimal.digits decimal.power

/-- The text of a number. -/
def numberText : JsonNumber → List Char
  | .integer value =>
      (if value < 0 then ['-'] else []) ++ Nat.toDigits 10 value.natAbs
  | .real value =>
      (if value.negative then ['-'] else []) ++ magnitudeText value.magnitude

/-- The digit of a number below sixteen. -/
def hexDigit (value : Nat) : Char :=
  Nat.digitChar value

/-- One character inside a string. -/
def escape (c : Char) : List Char :=
  match c with
  | '"' => ['\\', '"']
  | '\\' => ['\\', '\\']
  | '\x08' => ['\\', 'b']
  | '\t' => ['\\', 't']
  | '\n' => ['\\', 'n']
  | '\x0c' => ['\\', 'f']
  | '\r' => ['\\', 'r']
  | _ =>
      if c.toNat < 0x20 then
        ['\\', 'u', '0', '0', hexDigit (c.toNat / 16), hexDigit (c.toNat % 16)]
      else
        [c]

/-- A string between quotes. -/
def stringText (text : String) : List Char :=
  ['"'] ++ text.toList.flatMap escape ++ ['"']

mutual

/-- The characters of a value. -/
def chars : Json → List Char
  | .null => "null".toList
  | .bool true => "true".toList
  | .bool false => "false".toList
  | .number value => numberText value
  | .string text => stringText text
  | .array [] => ['[', ']']
  | .array (item :: items) => '[' :: (chars item ++ itemChars items)
  | .object [] => ['{', '}']
  | .object ((key, value) :: members) =>
      '{' :: (stringText key ++ ':' :: (chars value ++ memberChars members))

/-- Further elements and the closing bracket. -/
def itemChars : List Json → List Char
  | [] => [']']
  | item :: items => ',' :: (chars item ++ itemChars items)

/-- Further members and the closing brace. -/
def memberChars : List (String × Json) → List Char
  | [] => ['}']
  | (key, value) :: members =>
      ',' :: (stringText key ++ ':' :: (chars value ++ memberChars members))

end

/-- The text of a value. -/
def render (value : Json) : String :=
  String.ofList value.chars

end Json

end SignalRelay
