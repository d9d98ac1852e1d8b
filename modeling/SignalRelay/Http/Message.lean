import SignalRelay.Text.Pieces
import SignalRelay.Text.Utf8

namespace SignalRelay

/-!
# Requests and responses

A request over HTTP, and what the relay answers.  Every response tells its length and
that scripts from anywhere may use it.
-/

/-- A request. -/
structure HttpRequest where
  method : String
  target : String
  headers : List (String × String) := []
  body : Octets := []
  deriving Repr, DecidableEq

/-- A response. -/
structure HttpResponse where
  status : Nat
  contentType : Option String := none
  /-- The methods that the target knows, where another one was used. -/
  allow : Option String := none
  /-- Whether it answers a question about what scripts may do. -/
  preflight : Bool := false
  body : String := ""
  /-- The length that is told; it stays when the body is left out. -/
  length : Nat := body.utf8ByteSize
  deriving Repr, DecidableEq

namespace HttpRequest

/-- A text in which letters from `A` to `Z` are in lower case. -/
def lower (text : String) : List Char :=
  text.toList.map Char.toLower

/-- The first header with a name, which is given in lower case. -/
def header? (request : HttpRequest) (name : String) : Option String :=
  (request.headers.find? fun header => lower header.1 == name.toList).map (·.2)

/-- Whether a header is a given text up to case. -/
def headerIs (request : HttpRequest) (name text : String) : Bool :=
  (request.header? name).any fun held => lower held == lower text

/-- Whether a header holds a given text somewhere, up to case. -/
def headerHolds (request : HttpRequest) (name text : String) : Bool :=
  (request.header? name).any fun held => Pieces.occursIn (lower text) (lower held)

end HttpRequest

namespace HttpResponse

/-- A response without content. -/
def empty (status : Nat) : HttpResponse :=
  { status }

/-- A response in plain text. -/
def plain (status : Nat) (text : String) : HttpResponse :=
  { status, contentType := some "text/plain; charset=utf-8", body := text }

/-- A response that is a JSON text. -/
def json (status : Nat) (text : String) : HttpResponse :=
  { status, contentType := some "application/json", body := text }

/-- A response without its body. -/
def withoutBody (response : HttpResponse) : HttpResponse :=
  { response with body := "" }

/-- The headers of a response, by their names. -/
def headers (response : HttpResponse) : List (String × String) :=
  (if response.preflight then
    [("access-control-allow-headers", "*"), ("access-control-allow-methods", "*")]
  else []) ++
    [("access-control-allow-origin", "*")] ++
    (if response.preflight then [] else [("access-control-expose-headers", "*")]) ++
    (response.allow.toList.map fun methods => ("allow", methods)) ++
    [("content-length", toString response.length)] ++
    (response.contentType.toList.map fun kind => ("content-type", kind)) ++
    [("vary",
      "origin, access-control-request-method, access-control-request-headers")]

end HttpResponse

end SignalRelay
