import SignalRelay.Text.Pieces
import SignalRelay.Url.Percent

namespace SignalRelay

/-!
# Paths in URLs

A path is cut into segments at slashes, forward or backward.  A segment of one dot
stands for nothing, one of two dots takes back the segment in front of it.
-/

namespace UrlPath

/-- Whether a character ends a segment. -/
def isSlash (c : Char) : Bool :=
  c == '/' || c == '\\'

/-- Whether a character stands for itself in a segment. -/
def isKept (c : Char) : Bool :=
  0x20 < c.toNat && c.toNat < 0x7F && !"\"<>`#?\x7b\x7d".toList.contains c

/-- A segment with dots in place of their escapes. -/
def plainDots : List Char → List Char
  | '%' :: '2' :: 'e' :: rest => '.' :: plainDots rest
  | '%' :: '2' :: 'E' :: rest => '.' :: plainDots rest
  | c :: rest => c :: plainDots rest
  | [] => []

/-- Whether a segment stands for nothing. -/
def isHere (segment : List Char) : Bool :=
  plainDots segment == ['.']

/-- Whether a segment takes back the one in front of it. -/
def isBack (segment : List Char) : Bool :=
  plainDots segment == ['.', '.']

/-- Whether a segment names a drive; such a segment is never taken back. -/
def isDrive : List Char → Bool
  | [letter, mark] => letter.isAlpha && (mark == ':' || mark == '|')
  | _ => false

/-- Take back the last of the segments, which are kept last one first. -/
def dropLast : List (List Char) → List (List Char)
  | [] => []
  | segment :: before => if isDrive segment then segment :: before else before

/-- Add segments to those before them, kept last one first. -/
def resolve : (before : List (List Char)) → List (List Char) → List (List Char)
  | before, [] => before
  | before, [last] =>
      if isBack last then [] :: dropLast before
      else if isHere last then [] :: before
      else last :: before
  | before, segment :: rest =>
      if isBack segment then resolve (dropLast before) rest
      else if isHere segment then resolve before rest
      else resolve (segment :: before) rest

/-- The path that the part of a URL behind the host stands for. -/
def ofChars (chars : List Char) : List Char :=
  let relative :=
    match chars with
    | c :: rest => if isSlash c then rest else c :: rest
    | [] => []
  let segments := (Pieces.cut isSlash relative).map (Percent.encode isKept)
  (resolve [] segments).reverse.flatMap ('/' :: ·)

end UrlPath

end SignalRelay
