namespace SignalRelay

/-!
# White space

The characters with the Unicode property `White_Space`, and the removal of such
characters, or of slashes, from both ends of a text.
-/

namespace Blank

/-- The characters with the property `White_Space`. -/
def isBlank (c : Char) : Bool :=
  let v := c.toNat
  (0x09 ≤ v && v ≤ 0x0D) || v == 0x20 || v == 0x85 || v == 0xA0 || v == 0x1680 ||
    (0x2000 ≤ v && v ≤ 0x200A) || v == 0x2028 || v == 0x2029 || v == 0x202F ||
    v == 0x205F || v == 0x3000

/-- Drop characters from both ends as long as the test accepts them. -/
def stripWhile (test : Char → Bool) (chars : List Char) : List Char :=
  ((chars.dropWhile test).reverse.dropWhile test).reverse

end Blank

end SignalRelay
