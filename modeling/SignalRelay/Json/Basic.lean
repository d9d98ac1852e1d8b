import SignalRelay.Number.Binary64
import SignalRelay.Text.Keyed

namespace SignalRelay

/-!
# JSON values

Objects are kept with their keys in the order of their UTF-8 octets and without
repetition, so that a value has one form and is written in one way.
-/

/-- A number: an integer that fits 64 bits, signed or not, or a binary64 number. -/
inductive JsonNumber where
  | integer : Int → JsonNumber
  | real : Binary64 → JsonNumber
  deriving Repr, DecidableEq

/-- A JSON value. -/
inductive Json where
  | null : Json
  | bool : Bool → Json
  | number : JsonNumber → Json
  | string : String → Json
  | array : List Json → Json
  | object : List (String × Json) → Json
  deriving Repr, Inhabited

namespace JsonNumber

/-- Numerical equality between numbers of one kind. -/
def same : JsonNumber → JsonNumber → Bool
  | .integer left, .integer right => left == right
  | .real left, .real right => left.same right
  | _, _ => false

end JsonNumber

namespace Json

/-- The object with the given members; of a repeated key the last member counts. -/
def ofMembers (members : List (String × Json)) : Json :=
  .object (members.foldl (fun held member => Keyed.insert member.1 member.2 held) [])

/-- The value of a member, if the value is an object that has it. -/
def member? (key : String) : Json → Option Json
  | .object members => members.lookup key
  | _ => none

/-- The text of a string value. -/
def text? : Json → Option String
  | .string text => some text
  | _ => none

/-- Whether a value is `null`. -/
def isNull : Json → Bool
  | .null => true
  | _ => false

mutual

/-- Equality of values up to the sign of zeros. -/
def same : Json → Json → Bool
  | .null, .null => true
  | .bool left, .bool right => left == right
  | .number left, .number right => left.same right
  | .string left, .string right => left == right
  | .array left, .array right => sameItems left right
  | .object left, .object right => sameMembers left right
  | _, _ => false

/-- Equality of element lists up to the sign of zeros. -/
def sameItems : List Json → List Json → Bool
  | [], [] => true
  | left :: lefts, right :: rights => same left right && sameItems lefts rights
  | _, _ => false

/-- Equality of member lists up to the sign of zeros. -/
def sameMembers : List (String × Json) → List (String × Json) → Bool
  | [], [] => true
  | (leftKey, left) :: lefts, (rightKey, right) :: rights =>
      leftKey == rightKey && same left right && sameMembers lefts rights
  | _, _ => false

end

mutual

/-- How deeply arrays and objects nest; a scalar has depth zero. -/
def depth : Json → Nat
  | .array items => depthItems items + 1
  | .object members => depthMembers members + 1
  | _ => 0

/-- The greatest depth among elements. -/
def depthItems : List Json → Nat
  | [] => 0
  | item :: rest => max (depth item) (depthItems rest)

/-- The greatest depth among members. -/
def depthMembers : List (String × Json) → Nat
  | [] => 0
  | (_, value) :: rest => max (depth value) (depthMembers rest)

end

end Json

end SignalRelay
