import SignalRelay.Url.Form
import SignalRelay.Url.Host
import SignalRelay.Url.Path

namespace SignalRelay

/-!
# WebSocket URLs

A URL of one of the two WebSocket schemes, in its parts.  Reading brings a URL into the
one form in which it is written; pairs are added at the end of its query.
-/

/-- A WebSocket URL. -/
structure SocketUrl where
  /-- Whether the connection is encrypted. -/
  secure : Bool
  /-- What precedes the host, with its sign, encoded. -/
  credentials : List Char
  host : Host
  /-- The port, unless it is the usual one. -/
  port : Option UInt16
  path : List Char
  query : Option (List Char)
  fragment : Option (List Char)
  deriving Repr, DecidableEq

namespace SocketUrl

/-- The name of a scheme. -/
def scheme (secure : Bool) : String :=
  if secure then "wss" else "ws"

/-- The usual port of a scheme. -/
def usualPort (secure : Bool) : UInt16 :=
  if secure then 443 else 80

/-- The text of a URL. -/
def text (url : SocketUrl) : String :=
  scheme url.secure ++ "://" ++ String.ofList url.credentials ++ url.host.text ++
    (match url.port with
      | some port => ":" ++ toString port.toNat
      | none => "") ++
    String.ofList url.path ++
    (match url.query with
      | some query => "?" ++ String.ofList query
      | none => "") ++
    (match url.fragment with
      | some fragment => "#" ++ String.ofList fragment
      | none => "")

/-- The port to connect to. -/
def knownPort (url : SocketUrl) : UInt16 :=
  url.port.getD (usualPort url.secure)

/-- A URL with one more pair in its query. -/
def appendPair (url : SocketUrl) (pair : String × String) : SocketUrl :=
  { url with query := some (Form.append (url.query.getD []) pair) }

/-- The pairs in the query of a URL. -/
def pairs (url : SocketUrl) : List (String × String) :=
  Form.decodePairs (Utf8.encode (String.ofList (url.query.getD [])))

/-- What a client requests of the host: path and query. -/
def target (url : SocketUrl) : String :=
  String.ofList url.path ++
    (match url.query with
      | some query => "?" ++ String.ofList query
      | none => "")

/-! ## Reading -/

/-- Whether a character is skipped wherever it stands. -/
def isSkipped (c : Char) : Bool :=
  c == '\t' || c == '\n' || c == '\r'

/-- Whether a character ends the part with the host. -/
def endsAuthority (c : Char) : Bool :=
  UrlPath.isSlash c || c == '?' || c == '#'

/-- Whether a character stands for itself in credentials. -/
def isKeptInCredentials (c : Char) : Bool :=
  UrlPath.isKept c && !"/:;=@[\\]^|".toList.contains c

/-- Whether a character stands for itself in a query. -/
def isKeptInQuery (c : Char) : Bool :=
  0x20 < c.toNat && c.toNat < 0x7F && !"\"#<>'".toList.contains c

/-- Whether a character stands for itself in a fragment. -/
def isKeptInFragment (c : Char) : Bool :=
  0x20 < c.toNat && c.toNat < 0x7F && !"\"<>`".toList.contains c

/-- The form of credentials; an empty password is left out, and so is the sign if there
is nothing before it. -/
def encodeCredentials (chars : List Char) : List Char :=
  let (user, password?) := Pieces.cutOnce (· == ':') chars
  let password := password?.getD []
  let encoded :=
    Percent.encode isKeptInCredentials user ++
      (if password.isEmpty then []
        else ':' :: Percent.encode isKeptInCredentials password)
  if encoded.isEmpty then [] else encoded ++ ['@']

/-- Cut at the first colon that does not stand between brackets. -/
def cutPort : (inside : Bool) → List Char → List Char × Option (List Char)
  | _, [] => ([], none)
  | inside, c :: rest =>
      if c = ':' ∧ inside = false then
        ([], some rest)
      else
        let inside := if c = '[' then true else if c = ']' then false else inside
        let (host, port) := cutPort inside rest
        (c :: host, port)

/-- The port that digits name; nothing names the usual one. -/
def portOf (secure : Bool) (digits : List Char) : Except UrlError (Option UInt16) :=
  if digits.isEmpty then
    .ok none
  else if digits.all (AddressReader.isDigit 10) then
    let value := AddressReader.digitsValue 10 digits
    if value < 0x10000 then
      let port := UInt16.ofNat value
      .ok (if port = usualPort secure then none else some port)
    else
      .error .invalidPort
  else
    .error .invalidPort

/-- Read the part with credentials, host and port: the host is checked before the port. -/
def readAuthority (names : NameMapping) (secure : Bool) (authority : List Char) :
    Except UrlError (List Char × Host × Option UInt16) :=
  let (user?, hostAndPort) := Pieces.cutLast (· == '@') authority
  let (hostText, port?) := cutPort false hostAndPort
  match Host.ofChars names hostText with
  | .error error => .error error
  | .ok host =>
      match portOf secure (port?.getD []) with
      | .error error => .error error
      | .ok port => .ok (encodeCredentials (user?.getD []), host, port)

/-- Read what follows the scheme, its colon and any number of slashes. -/
def read (names : NameMapping) (secure : Bool) (text : String) :
    Except UrlError SocketUrl :=
  let chars := (text.toList.filter fun c => !isSkipped c).dropWhile UrlPath.isSlash
  let authority := chars.takeWhile fun c => !endsAuthority c
  let behind := chars.dropWhile fun c => !endsAuthority c
  match readAuthority names secure authority with
  | .error error => .error error
  | .ok (credentials, host, port) =>
      let (front, fragment?) := Pieces.cutOnce (· == '#') behind
      let (path, query?) := Pieces.cutOnce (· == '?') front
      .ok {
        secure
        credentials
        host
        port
        path := UrlPath.ofChars path
        query := query?.map (Percent.encode isKeptInQuery)
        fragment := fragment?.map (Percent.encode isKeptInFragment)
      }

end SocketUrl

end SignalRelay
