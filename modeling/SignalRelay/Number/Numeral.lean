namespace SignalRelay

/-!
# Decimal numerals

Reading of natural numbers below 2^64, with the reasons for which a text is not one.
-/

/-- Why a text is not a number. -/
inductive NumeralFault where
  | empty : NumeralFault
  | invalidDigit : NumeralFault
  | tooLarge : NumeralFault
  deriving Repr, DecidableEq

namespace NumeralFault

/-- The wording of a reason. -/
def text : NumeralFault → String
  | .empty => "cannot parse integer from empty string"
  | .invalidDigit => "invalid digit found in string"
  | .tooLarge => "number too large to fit in target type"

end NumeralFault

namespace Numeral

/-- The bound below which numbers lie. -/
def bound : Nat := Nat.pow 2 64

/-- Continue a value by digits; the first reason from the left counts. -/
def readDigits (value : Nat) : List Char → Except NumeralFault Nat
  | [] => .ok value
  | c :: rest =>
      if c < '0' ∨ '9' < c then
        .error .invalidDigit
      else
        let next := value * 10 + (c.toNat - '0'.toNat)
        if bound ≤ next then .error .tooLarge else readDigits next rest

/-- The number that a text is; a plus sign may stand in front. -/
def ofText (text : String) : Except NumeralFault Nat :=
  match text.toList with
  | [] => .error .empty
  | ['+'] => .error .invalidDigit
  | '+' :: digits => readDigits 0 digits
  | digits => readDigits 0 digits

end Numeral

end SignalRelay
