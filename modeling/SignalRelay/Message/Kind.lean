namespace SignalRelay

/-!
# Kinds of messages

Four kinds are the relay's own.  The others are negotiation between clients; spellings
that the relay does not know are kept as they are.
-/

/-- The kind of a message. -/
inductive MessageKind where
  | opened : MessageKind
  | error : MessageKind
  | idTaken : MessageKind
  | heartbeat : MessageKind
  | offer : MessageKind
  | answer : MessageKind
  | candidate : MessageKind
  | leave : MessageKind
  | expire : MessageKind
  | other : String → MessageKind
  deriving Repr, DecidableEq

namespace MessageKind

/-- The spelling of a kind. -/
def text : MessageKind → String
  | .opened => "OPEN"
  | .error => "ERROR"
  | .idTaken => "ID-TAKEN"
  | .heartbeat => "HEARTBEAT"
  | .offer => "OFFER"
  | .answer => "ANSWER"
  | .candidate => "CANDIDATE"
  | .leave => "LEAVE"
  | .expire => "EXPIRE"
  | .other spelling => spelling

/-- The kinds with a spelling of their own. -/
def known : List MessageKind :=
  [.opened, .error, .idTaken, .heartbeat, .offer, .answer, .candidate, .leave, .expire]

/-- The kind with a given spelling. -/
def ofText (spelling : String) : MessageKind :=
  (known.find? (·.text == spelling)).getD (.other spelling)

/-- Whether only the relay may send messages of a kind. -/
def isReserved : MessageKind → Bool
  | .opened | .error | .idTaken | .heartbeat => true
  | _ => false

/-- The kinds that may be sent in a single request. -/
def requestable : List MessageKind := [.offer, .candidate, .answer, .leave]

/-- The kind that a request names; letters from `a` to `z` count as upper case. -/
def ofRequest? (spelling : String) : Option MessageKind :=
  let kind := ofText (String.ofList (spelling.toList.map Char.toUpper))
  if kind ∈ requestable then some kind else none

end MessageKind

end SignalRelay
