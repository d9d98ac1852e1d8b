namespace SignalRelay

/-!
# Binary64 numbers, exactly

A finite binary64 number is a sign and a magnitude `significand * 2 ^ exponent`.  Each
operation on magnitudes rounds a quotient of natural numbers to the nearest magnitude,
so all of it happens in exact integer arithmetic.
-/

/--
A finite binary64 magnitude.  In canonical form the significand is below `2 ^ 53`, and
it is at least `2 ^ 52` unless the exponent is the least one, `-1074`.
-/
structure Magnitude where
  significand : Nat
  exponent : Int
  deriving Repr, DecidableEq

/-- A finite binary64 number; zero has two signs. -/
structure Binary64 where
  negative : Bool
  magnitude : Magnitude
  deriving Repr, DecidableEq

namespace Magnitude

/-- The magnitude of zero. -/
def zero : Magnitude := ⟨0, -1074⟩

/-- The numerator of the exact value, over `denominator`. -/
def numerator (value : Magnitude) : Nat :=
  value.significand * Nat.pow 2 value.exponent.toNat

/-- The denominator of the exact value, a power of two. -/
def denominator (value : Magnitude) : Nat :=
  Nat.pow 2 (-value.exponent).toNat

/-- The integer nearest to a quotient, the even one of two. -/
def roundQuotient (top bottom : Nat) : Nat :=
  let quotient := top / bottom
  let remainder := top % bottom
  if 2 * remainder < bottom then
    quotient
  else if 2 * remainder > bottom then
    quotient + 1
  else
    quotient + quotient % 2

/-- The floor of the binary logarithm of a quotient of positive numbers. -/
def floorLog2 (top bottom : Nat) : Int :=
  let guess : Int := (top.log2 : Int) - bottom.log2
  if bottom * Nat.pow 2 guess.toNat ≤ top * Nat.pow 2 (-guess).toNat then guess
  else guess - 1

/-- A magnitude, unless its exponent is beyond the greatest one. -/
def fit? (significand : Nat) (exponent : Int) : Option Magnitude :=
  if exponent ≤ 971 then some ⟨significand, exponent⟩ else none

/--
The magnitude nearest to `top / bottom`, the one with even significand of two.
`none` stands for a quotient that rounds beyond the greatest magnitude.
-/
def nearest? (top bottom : Nat) : Option Magnitude :=
  if top = 0 then
    some zero
  else
    let exponent := max (floorLog2 top bottom - 52) (-1074)
    let rounded :=
      roundQuotient (top * Nat.pow 2 (-exponent).toNat) (bottom * Nat.pow 2 exponent.toNat)
    if rounded = Nat.pow 2 53 then
      fit? (Nat.pow 2 52) (exponent + 1)
    else
      fit? rounded exponent

/-- The rounded sum of two magnitudes. -/
def plus? (left right : Magnitude) : Option Magnitude :=
  nearest? (left.numerator * right.denominator + right.numerator * left.denominator)
    (left.denominator * right.denominator)

/-- The rounded product of two magnitudes. -/
def times? (left right : Magnitude) : Option Magnitude :=
  nearest? (left.numerator * right.numerator) (left.denominator * right.denominator)

/-- The rounded quotient of two magnitudes, the second one positive. -/
def over? (left right : Magnitude) : Option Magnitude :=
  nearest? (left.numerator * right.denominator) (left.denominator * right.numerator)

/-- Whether a magnitude is less than another one. -/
def lessThan (left right : Magnitude) : Bool :=
  left.numerator * right.denominator < right.numerator * left.denominator

/-- The magnitude nearest to a power of ten. -/
def tenTo? (power : Nat) : Option Magnitude :=
  nearest? (Nat.pow 10 power) 1

/-- Divide by the magnitude nearest to a power of ten. -/
def overTen? (value : Magnitude) (power : Nat) : Option Magnitude :=
  (tenTo? power).bind value.over?

/--
The magnitude read for `significand * 10 ^ power`: the nearest magnitude of each
factor is taken first and the product or quotient is rounded once more.  Powers below
`-308` are reached by dividing by `10 ^ 308` first; two such divisions leave nothing
of a significand below `2 ^ 64`.  `none` stands for a value out of range.
-/
def ofDecimal? (significand : Nat) (power : Int) : Option Magnitude :=
  (nearest? significand 1).bind fun value =>
    if value = zero then
      some zero
    else if 308 < power then
      none
    else if 0 ≤ power then
      (tenTo? power.toNat).bind value.times?
    else if -308 ≤ power then
      value.overTen? (-power).toNat
    else if -616 ≤ power then
      (value.overTen? 308).bind fun scaled => scaled.overTen? (-power - 308).toNat
    else
      some zero

end Magnitude

namespace Binary64

/-- Numerical equality: the two zeros are equal. -/
def same (left right : Binary64) : Bool :=
  left.magnitude == right.magnitude &&
    (left.negative == right.negative || left.magnitude.significand == 0)

end Binary64

end SignalRelay
