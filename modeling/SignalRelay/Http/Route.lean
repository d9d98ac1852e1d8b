import SignalRelay.Http.Target
import SignalRelay.Settings.MountPath

namespace SignalRelay

/-!
# Routes

The resources of the relay and the paths at which they are found.  A path is a sequence
of segments between slashes.  A segment of a route is literal, or it is a parameter,
which begins with a colon and stands for any segment; the last segment of a path is then
not empty.  The path under which the relay is mounted stands in front of every route.
-/

/-- What the relay offers to requests. -/
inductive Resource where
  /-- Whether the relay is alive. -/
  | health : Resource
  /-- The counters and the gauge. -/
  | metrics : Resource
  /-- Where WebSockets are opened. -/
  | socket : Resource
  /-- A fresh id. -/
  | freshId : Resource
  /-- The ids of all clients. -/
  | peers : Resource
  /-- Where a single message is relayed. -/
  | message : Resource
  deriving Repr, DecidableEq

/-- One segment of a route. -/
inductive SegmentPattern where
  | literal : List Char → SegmentPattern
  /-- A parameter with a name, behind a literal beginning. -/
  | parameter : (lead name : List Char) → SegmentPattern
  deriving Repr, DecidableEq

/-- The raw text of a parameter. -/
structure Capture where
  name : List Char
  text : List Char
  deriving Repr, DecidableEq

namespace SegmentPattern

/-- Read a segment of a route. -/
def ofChars (chars : List Char) : SegmentPattern :=
  match Pieces.cutOnce (· == ':') chars with
  | (lead, some name) => .parameter lead name
  | (spelling, none) => .literal spelling

/-- What a segment of a path stands for, if it fits. -/
def capture? (last : Bool) (segment : List Char) :
    SegmentPattern → Option (List Capture)
  | .literal spelling => if segment = spelling then some [] else none
  | .parameter lead name =>
      let text := segment.drop lead.length
      if lead.isPrefixOf segment && !(last && text.isEmpty) then some [⟨name, text⟩]
      else none

end SegmentPattern

/-- The segments of a route. -/
abbrev RoutePattern := List SegmentPattern

namespace RoutePattern

/-- The segments of a path. -/
def segments (path : List Char) : List (List Char) :=
  Pieces.cut (· == '/') path

/-- Read a route. -/
def ofText (text : String) : RoutePattern :=
  (segments text.toList).map SegmentPattern.ofChars

/-- The parameters of a path that a route fits. -/
def captures? : RoutePattern → List (List Char) → Option (List Capture)
  | [], [] => some []
  | pattern :: patterns, segment :: segments =>
      match pattern.capture? segments.isEmpty segment, captures? patterns segments with
      | some captures, some more => some (captures ++ more)
      | _, _ => none
  | _, _ => none

end RoutePattern

namespace Resource

/-- All resources. -/
def all : List Resource := [.health, .metrics, .socket, .freshId, .peers, .message]

/-- The path of a resource below the mount path. -/
def path : Resource → String
  | .health => "/health"
  | .metrics => "/metrics"
  | .socket => MountPath.socketPath
  | .freshId => "/:key/id"
  | .peers => "/:key/peers"
  | .message => "/:key/:id/:token/:kind"

/-- The route of a resource. -/
def route (mount : String) (resource : Resource) : RoutePattern :=
  .ofText (MountPath.below mount resource.path)

/-- The methods that a resource knows. -/
def methods : Resource → List String
  | .message => ["POST"]
  | _ => ["GET", "HEAD"]

/-- The resource at a path, with the parameters of the path. -/
def find? (mount : String) (path : List Char) : Option (Resource × List Capture) :=
  all.findSome? fun resource =>
    ((resource.route mount).captures? (RoutePattern.segments path)).map fun captures =>
      (resource, captures)

end Resource

end SignalRelay
