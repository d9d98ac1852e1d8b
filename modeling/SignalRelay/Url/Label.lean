import SignalRelay.Text.Pieces
import SignalRelay.Url.Label.Allowed
import SignalRelay.Url.Label.Composite
import SignalRelay.Url.Label.Direction
import SignalRelay.Url.Label.Joining
import SignalRelay.Url.Punycode

namespace SignalRelay

/-!
# Labels of host names

The parts of a name between dots.  A label with characters beyond ASCII is written in
ASCII behind a lead; what it stands for has to be a label that is written in no other
way.
-/

namespace Label

/-- The beginning of a label that stands for characters beyond ASCII. -/
def lead : List Char := ['x', 'n', '-', '-']

/-- The greatest number of characters behind the lead. -/
def encodedLimit : Nat := 2000

/-- The greatest number of characters of a label that is not in ASCII. -/
def decodedLimit : Nat := 1000

/-- Whether characters are what a label behind the lead may stand for. -/
def isProper (chars : List Char) : Bool :=
  chars.any (0x80 ≤ ·.toNat) && chars.length ≤ decodedLimit && chars.all isAllowed &&
    isComposed chars && !chars.head?.any isMark && joinersFit [] chars

/-- The characters that a label in lower case stands for. -/
def decode? (label : List Char) : Option (List Char) :=
  if lead.isPrefixOf label then
    let encoded := label.drop lead.length
    if encoded.length ≤ encodedLimit && encoded.getLast? != some '-' then
      (Punycode.decode? encoded).filter isProper
    else
      none
  else
    some label

/-- Whether the directions of writing in all labels of a name go together. -/
def directionsFit (labels : List (List Char)) : Bool :=
  let directions := labels.map (·.map Direction.ofChar)
  !directions.any (·.any Direction.isReversing) || directions.all Direction.goTogether

/-- Whether a name in ASCII and in lower case has proper labels only. -/
def areProper (name : List Char) : Bool :=
  ((Pieces.cut (· == '.') name).mapM decode?).any directionsFit

end Label

end SignalRelay
