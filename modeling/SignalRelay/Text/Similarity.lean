import SignalRelay.Number.Binary64

namespace SignalRelay

/-!
# Similarity of words

How alike two words are, as a number between zero and one: the mean of the share of
matched characters in either word and the share of matches that keep their order.  Two
equal characters match if their positions differ by less than half of the longer word.
The mean is taken in binary64 arithmetic, and words are alike if it exceeds `0.7`.
-/

namespace Similarity

/-- How far apart two matched characters may be. -/
def reach (left right : List Char) : Nat :=
  max left.length right.length / 2 - 1

/-- The first position within reach that holds a character and is not taken. -/
def matchFor? (reach : Nat) (right : List Char) (taken : List Nat) (position : Nat)
    (c : Char) : Option Nat :=
  (List.range right.length).find? fun other =>
    position ≤ other + reach && other ≤ position + reach &&
      right[other]? == some c && !taken.contains other

/-- The positions of matched characters in either word, in the order of their finding. -/
def matchesFrom (reach : Nat) (right : List Char) :
    (position : Nat) → (taken : List Nat) → List Char → List (Char × Nat)
  | _, _, [] => []
  | position, taken, c :: rest =>
      match matchFor? reach right taken position c with
      | none => matchesFrom reach right (position + 1) taken rest
      | some other =>
          (c, other) :: matchesFrom reach right (position + 1) (other :: taken) rest

/-- How many matched characters of one word meet another character in the other. -/
def displaced (right : List Char) (found : List (Char × Nat)) : Nat :=
  let matched := (List.range right.length).filter fun other =>
    found.any fun pair => pair.2 == other
  let inOrder := matched.filterMap (right[·]?)
  ((found.map (·.1)).zip inOrder).countP fun pair => pair.1 != pair.2

/-- The mean of three quotients, rounded at each step. -/
def meanOfQuotients? (first second third : Nat × Nat) : Option Magnitude :=
  (Magnitude.nearest? first.1 first.2).bind fun a =>
  (Magnitude.nearest? second.1 second.2).bind fun b =>
  (Magnitude.nearest? third.1 third.2).bind fun c =>
  (a.plus? b).bind fun sum =>
  (sum.plus? c).bind fun sum =>
    Magnitude.nearest? sum.numerator (3 * sum.denominator)

/-- How alike two words are. -/
def likeness (left right : List Char) : Magnitude :=
  if left.isEmpty && right.isEmpty then
    ⟨Nat.pow 2 52, -52⟩
  else
    let found := matchesFrom (reach left right) right 0 [] left
    let count := found.length
    if count = 0 then
      .zero
    else
      (meanOfQuotients? (count, left.length) (count, right.length)
        (count - displaced right found / 2, count)).getD .zero

/-- Whether a likeness is that of words that are alike. -/
def isAlike (likeness : Magnitude) : Bool :=
  (Magnitude.nearest? 7 10).any (·.lessThan likeness)

/-- The word most alike to a given one, the last among equals, if any is alike. -/
def closest? (word : String) (others : List String) : Option String :=
  let scored := others.map fun other => (likeness word.toList other.toList, other)
  let alike := scored.filter fun entry => isAlike entry.1
  (alike.foldl
    (fun best entry =>
      match best with
      | none => some entry
      | some (score, other) =>
          if entry.1.lessThan score then some (score, other) else some entry)
    (none : Option (Magnitude × String))).map (·.2)

end Similarity

end SignalRelay
