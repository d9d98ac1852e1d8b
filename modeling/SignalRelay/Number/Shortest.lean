import SignalRelay.Number.Binary64

namespace SignalRelay

/-!
# Shortest decimals

The decimal with the fewest digits among those that round to a given binary64
magnitude, and of these the one nearest to it.  For each digit count the two
neighbours of the value on that decimal grid are tested against the interval of
numbers that round to the value; the first count with a hit wins.
-/

/-- Decimal digits, the first one not zero and the last one not zero, with the
power of ten that the first digit stands for. -/
structure ShortDecimal where
  digits : List Char
  power : Int
  deriving Repr, DecidableEq

namespace Magnitude

/-- The floor of the decimal logarithm of a positive magnitude. -/
def floorLog10 (value : Magnitude) : Int :=
  let top := value.numerator
  let bottom := value.denominator
  if bottom ≤ top then
    ((Nat.toDigits 10 (top / bottom)).length : Int) - 1
  else
    -((Nat.toDigits 10 ((bottom - 1) / top)).length : Int)

/--
The interval of numbers that round to a magnitude, and the magnitude itself, in
quarters of its unit in the last place.  The lower half is shorter at a power of two.
-/
structure Neighbourhood where
  low : Nat
  value : Nat
  high : Nat
  closed : Bool
  deriving Repr, DecidableEq

/-- The interval around a magnitude; its ends belong to it if the significand is even. -/
def neighbourhood (value : Magnitude) : Neighbourhood where
  low :=
    if value.significand = Nat.pow 2 52 ∧ value.exponent ≠ -1074 then
      4 * value.significand - 1
    else
      4 * value.significand - 2
  value := 4 * value.significand
  high := 4 * value.significand + 2
  closed := value.significand % 2 == 0

/-- Whether `point` lies between `low` and `high`, the ends included if `closed`. -/
def between (closed : Bool) (low point high : Nat) : Bool :=
  if closed then
    decide (low ≤ point ∧ point ≤ high)
  else
    decide (low < point ∧ point < high)

/-- The multiple of `10 ^ power` that is nearest to a magnitude among the two
neighbours that round to it; of two equally near ones, the even multiple. -/
def nearestMultiple? (value : Magnitude) (power : Int) : Option Nat :=
  let unit : Int := value.exponent - 2
  let scale := Nat.pow 2 unit.toNat * Nat.pow 10 (-power).toNat
  let step := Nat.pow 2 (-unit).toNat * Nat.pow 10 power.toNat
  let around := value.neighbourhood
  let target := around.value * scale
  let below := target / step
  let above := below + 1
  let reads := fun (multiple : Nat) =>
    between around.closed (around.low * scale) (multiple * step) (around.high * scale)
  match reads below, reads above with
  | true, true =>
      let down := target - below * step
      let up := above * step - target
      if down < up then some below
      else if up < down then some above
      else some (below + below % 2)
  | true, false => some below
  | false, true => some above
  | false, false => none

/-- Write a multiple of a power of ten as digits without zeros at the end. -/
def shortDecimal (multiple : Nat) (power : Int) : ShortDecimal :=
  let digits := Nat.toDigits 10 multiple
  { digits := (digits.reverse.dropWhile (· == '0')).reverse
    power := power + digits.length - 1 }

/-- The shortest decimal that rounds to a positive magnitude. -/
def shortest (value : Magnitude) : ShortDecimal :=
  let leading := value.floorLog10
  let found := (List.range 17).findSome? fun (further : Nat) =>
    let power := leading - further
    (value.nearestMultiple? power).map fun multiple => shortDecimal multiple power
  found.getD ⟨['0'], 0⟩

end Magnitude

end SignalRelay
