import SignalRelay.Text.Pieces

namespace SignalRelay

/-!
# Request targets

What a request is for: a path and a query.  A target is written as these two, or as a
whole URL whose front counts for nothing, or as an asterisk or an authority, which have
no path to speak of.
-/

/-- The target of a request. -/
structure RequestTarget where
  path : List Char
  query : Option (List Char)
  deriving Repr, DecidableEq

namespace RequestTarget

/-- Whether a character may stand in a path. -/
def isPathChar (c : Char) : Bool :=
  ' ' < c && c != '<' && c != '>' && c != Char.ofNat 0x60

/-- Whether a character may stand in a query. -/
def isQueryChar (c : Char) : Bool :=
  ' ' < c && c != '<' && c != '>' && c != '"'

/--
Whether a character may stand in front of the path of a URL, besides those that
`AuthorityMarks` keeps an eye on.
-/
def isAuthorityChar (c : Char) : Bool :=
  c.isAlphanum || "!$&'()*+,-.;=_~".toList.contains c

/-- Whether a character ends an authority. -/
def endsAuthority (c : Char) : Bool :=
  c == '/' || c == '?' || c == '#'

/-- Whether a character may stand in the scheme of a URL. -/
def isSchemeChar (c : Char) : Bool :=
  c.isAlphanum || "+-.~".toList.contains c

/--
What has been seen of an authority.  Colons and percent signs are counted from the last
at sign or closing bracket on, for those in front belong to a user or to an address.
-/
structure AuthorityMarks where
  colons : Nat := 0
  percent : Bool := false
  bracketOpened : Bool := false
  bracketClosed : Bool := false
  deriving Repr, DecidableEq

namespace AuthorityMarks

/-- The greatest number of colons in a row of groups with a port. -/
def colonLimit : Nat := 8

/-- Go on with a character, if it may follow. -/
def next? (marks : AuthorityMarks) (c : Char) : Option AuthorityMarks :=
  match c with
  | ':' =>
      if marks.colons < colonLimit then some { marks with colons := marks.colons + 1 }
      else none
  | '[' =>
      if marks.percent || marks.bracketOpened then none
      else some { marks with bracketOpened := true }
  | ']' =>
      if marks.bracketOpened && !marks.bracketClosed then
        some { marks with bracketClosed := true, colons := 0, percent := false }
      else
        none
  | '@' => some { marks with colons := 0, percent := false }
  | '%' => some { marks with percent := true }
  | _ => if isAuthorityChar c then some marks else none

/-- Whether an authority may end here: with a host, and a port at most. -/
def isComplete (marks : AuthorityMarks) : Bool :=
  marks.bracketOpened == marks.bracketClosed && marks.colons ≤ 1 && !marks.percent

end AuthorityMarks

/-- Whether an authority names a host. -/
def isAuthority (chars : List Char) : Bool :=
  (chars.foldlM AuthorityMarks.next? {}).any AuthorityMarks.isComplete &&
    chars.getLast?.any (· != '@')

/-- What follows the scheme and its two slashes, if there is a scheme. -/
def afterScheme? (chars : List Char) : Option (List Char) :=
  let (scheme, rest) := Pieces.cutOnce (· == ':') chars
  match rest with
  | some ('/' :: '/' :: rest) =>
      if scheme.all isSchemeChar && scheme.length ≤ 64 then some rest else none
  | _ => none

/-- A target written as a path and a query; what follows a number sign is dropped. -/
def ofResource? (chars : List Char) : Option RequestTarget :=
  let (path, query) := Pieces.cutOnce (· == '?') (chars.takeWhile (· != '#'))
  if path.all isPathChar && query.all (·.all isQueryChar) then
    some ⟨if path.isEmpty then ['/'] else path, query⟩
  else
    none

/-- The greatest number of octets in a target. -/
def sizeLimit : Nat := 65534

/-- Read a target. -/
def ofText? (text : String) : Option RequestTarget :=
  if sizeLimit < text.utf8ByteSize then
    none
  else if text == "*" then
    some ⟨['*'], none⟩
  else
    let chars := text.toList
    if chars.head? == some '/' then
      ofResource? chars
    else
      match afterScheme? chars with
      | some rest =>
          let authority := rest.takeWhile fun c => !endsAuthority c
          if isAuthority authority then
            ofResource? (rest.dropWhile fun c => !endsAuthority c)
          else
            none
      | none => if isAuthority chars then some ⟨[], none⟩ else none

/-- Whether a character may stand in a target on the first line of a request. -/
def isLineChar (c : Char) : Bool :=
  ' ' < c && c.toNat != 0x7F

/-- The status that refuses the first line of a request, before its target is read. -/
def lineRefusal? (text : String) : Option Nat :=
  if !text.toList.all isLineChar then some 400
  else if sizeLimit < text.utf8ByteSize then some 414
  else none

end RequestTarget

end SignalRelay
