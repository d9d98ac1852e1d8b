namespace SignalRelay

/-!
# Punycode

A domain label with characters beyond ASCII is written with ASCII characters alone: its
ASCII characters, a hyphen, and the positions and code points of the others as a row of
numbers.  The digits of a number have base thirty-six; how many values a digit leaves
open depends on a bias that follows the numbers read so far.
-/

namespace Punycode

/-- The value of a digit: letters first, then decimal digits. -/
def digitValue? (c : Char) : Option Nat :=
  if 'a' ≤ c ∧ c ≤ 'z' then some (c.toNat - 'a'.toNat)
  else if 'A' ≤ c ∧ c ≤ 'Z' then some (c.toNat - 'A'.toNat)
  else if '0' ≤ c ∧ c ≤ '9' then some (c.toNat - '0'.toNat + 26)
  else none

/-- The value from which on the digit with a given weight is not the last one. -/
def threshold (weight bias : Nat) : Nat :=
  if weight ≤ bias then 1 else min 26 (weight - bias)

/-- Divide a difference until it is small; counts the base for each division. -/
def shrink (delta steps : Nat) : Nat × Nat :=
  if delta ≤ 455 then (delta, steps) else shrink (delta / 35) (steps + 36)
termination_by delta
decreasing_by omega

/-- The bias after a difference, when the label has a given number of characters. -/
def adapt (delta count : Nat) (first : Bool) : Nat :=
  let damped := if first then delta / 700 else delta / 2
  let (small, steps) := shrink (damped + damped / count) 0
  steps + 36 * small / (small + 38)

/-- The greatest number that is read, and the greatest unit of a digit. -/
def greatest : Nat := 0xFFFFFFFF

/-- Read one number, added to a value. -/
def readNumber (bias : Nat) :
    (weight : Nat) → (unit : Nat) → (value : Nat) → List Char → Option (Nat × List Char)
  | _, _, _, [] => none
  | weight, unit, value, c :: rest =>
      match digitValue? c with
      | none => none
      | some digit =>
          let value := value + digit * unit
          let limit := threshold weight bias
          if greatest < value then
            none
          else if digit < limit then
            some (value, rest)
          else if greatest < unit * (36 - limit) then
            none
          else
            readNumber bias (weight + 36) (unit * (36 - limit)) value rest

/--
Insert the characters that the numbers stand for.  The bound is on the count of numbers.
-/
def insertAll : (bound : Nat) → (code index bias : Nat) → (label : List Char) →
    List Char → Option (List Char)
  | _, _, _, _, label, [] => some label
  | 0, _, _, _, _, _ :: _ => none
  | bound + 1, code, index, bias, label, digits =>
      match readNumber bias 36 1 index digits with
      | none => none
      | some (value, rest) =>
          let count := label.length + 1
          let code := code + value / count
          let place := value % count
          if Nat.isValidChar code then
            insertAll bound code (place + 1)
              (adapt (value - index) count (label.all (·.toNat < 0x80)))
              (label.take place ++ [Char.ofNat code] ++ label.drop place) rest
          else
            none

/-- The label that a row of ASCII characters stands for. -/
def decode? (chars : List Char) : Option (List Char) :=
  let behind := (chars.reverse.takeWhile (· != '-')).reverse
  let front := chars.take (chars.length - behind.length - 1)
  if front.isEmpty then
    insertAll chars.length 0x80 0 72 [] chars
  else
    insertAll chars.length 0x80 0 72 front behind

end Punycode

end SignalRelay
