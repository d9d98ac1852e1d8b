namespace SignalRelay

/-!
# Ranges of characters

Sets of characters, given by ranges of code points.
-/

/-- Ranges of code points, each with its first and its last one. -/
abbrev CharRanges := List (Nat × Nat)

namespace CharRanges

/-- Whether a character lies in one of the ranges. -/
def contain (ranges : CharRanges) (c : Char) : Bool :=
  ranges.any fun range => range.1 ≤ c.toNat && c.toNat ≤ range.2

end CharRanges

end SignalRelay
