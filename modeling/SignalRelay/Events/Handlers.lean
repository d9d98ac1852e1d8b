namespace SignalRelay

/-!
# Lists of handlers

A list of handlers grows by subscription and is run by emission.  Handlers run in the
order of their subscription.  While it runs, a handler may subscribe further handlers
and emit further events; an emission runs the handlers that were subscribed when it
began, and no others.

Everything that happens is kept as a history, in which emissions are told apart by their
number and handlers by their position in the list.  A handler may remember: what it does
with an event may depend on all that has happened before.
-/

/-- One thing that happened to a list of handlers. -/
inductive Occurrence (ν ε : Type) where
  /-- The handler at a position was subscribed. -/
  | subscribed : Nat → Occurrence ν ε
  /-- The emission with a number began. -/
  | began : Nat → ε → Occurrence ν ε
  /-- The emission with a number called the handler at a position. -/
  | called : Nat → Nat → ν → ε → Occurrence ν ε
  deriving Repr, DecidableEq

mutual

/-- A handler: its name, and what it does, in order, with an event after a history. -/
inductive Handler (ν ε : Type) where
  | mk : ν → (List (Occurrence ν ε) → ε → List (Reaction ν ε)) → Handler ν ε

/-- One thing that a handler does. -/
inductive Reaction (ν ε : Type) where
  | subscribe : Handler ν ε → Reaction ν ε
  | emit : ε → Reaction ν ε

end

/-- A list of handlers, with its history. -/
structure Handlers (ν ε : Type) where
  subscribers : List (Handler ν ε)
  /-- How many emissions have begun. -/
  emissions : Nat
  history : List (Occurrence ν ε)

namespace Handler

/-- The name of a handler. -/
def name : Handler ν ε → ν
  | .mk name _ => name

/-- What a handler does with an event after a history. -/
def reactions : Handler ν ε → List (Occurrence ν ε) → ε → List (Reaction ν ε)
  | .mk _ reactions => reactions

/-- A handler that does nothing besides being called. -/
def listener (name : ν) : Handler ν ε :=
  .mk name fun _ _ => []

/-- A handler that subscribes a listener each time it is called. -/
def subscribing (name added : ν) : Handler ν ε :=
  .mk name fun _ _ => [.subscribe (listener added)]

/-- A handler that answers every other event by emitting a given one. -/
def echoing [DecidableEq ε] (name : ν) (echo : ε) : Handler ν ε :=
  .mk name fun _ event => if event = echo then [] else [.emit echo]

end Handler

namespace Occurrence

/-- The handler and the event of a call. -/
def call? : Occurrence ν ε → Option (ν × ε)
  | .called _ _ name event => some (name, event)
  | _ => none

end Occurrence

namespace Handlers

/-- The list without handlers. -/
def empty : Handlers ν ε :=
  ⟨[], 0, []⟩

/-- The number of handlers. -/
def size (handlers : Handlers ν ε) : Nat :=
  handlers.subscribers.length

/-- Append a handler. -/
def subscribe (handler : Handler ν ε) (handlers : Handlers ν ε) : Handlers ν ε where
  subscribers := handlers.subscribers ++ [handler]
  emissions := handlers.emissions
  history := handlers.history ++ [.subscribed handlers.size]

/-- Begin an emission. -/
def begin (event : ε) (handlers : Handlers ν ε) : Handlers ν ε where
  subscribers := handlers.subscribers
  emissions := handlers.emissions + 1
  history := handlers.history ++ [.began handlers.emissions event]

/-- Note that an emission calls a handler. -/
def noteCall (emission position : Nat) (name : ν) (event : ε)
    (handlers : Handlers ν ε) : Handlers ν ε :=
  { handlers with history := handlers.history ++ [.called emission position name event] }

/-- Carry out what a handler does, with a way to emit events. -/
def perform (emit : ε → Handlers ν ε → Option (Handlers ν ε)) :
    List (Reaction ν ε) → Handlers ν ε → Option (Handlers ν ε)
  | [], handlers => some handlers
  | .subscribe handler :: later, handlers =>
      perform emit later (handlers.subscribe handler)
  | .emit event :: later, handlers =>
      (emit event handlers).bind (perform emit later)

/-- Call the given handlers in turn, from a position on. -/
def callFrom (emit : ε → Handlers ν ε → Option (Handlers ν ε)) (emission : Nat)
    (event : ε) : (position : Nat) → List (Handler ν ε) → Handlers ν ε →
      Option (Handlers ν ε)
  | _, [], handlers => some handlers
  | position, handler :: later, handlers =>
      (perform emit (handler.reactions handlers.history event)
        (handlers.noteCall emission position handler.name event)).bind
          (callFrom emit emission event (position + 1) later)

/--
Emit an event: every handler subscribed so far is called.  The result is `none` if
emissions nest more deeply than the given depth.
-/
def emit : (depth : Nat) → ε → Handlers ν ε → Option (Handlers ν ε)
  | 0, _, _ => none
  | depth + 1, event, handlers =>
      callFrom (emit depth) handlers.emissions event 0 handlers.subscribers
        (handlers.begin event)

/-- The handlers called so far, with the events they were called for. -/
def calls (handlers : Handlers ν ε) : List (ν × ε) :=
  handlers.history.filterMap Occurrence.call?

/-- How a list of handlers is shown. -/
def describe (handlers : Handlers ν ε) : String :=
  "Handlers \x7b subscribers: " ++ toString handlers.size ++ " \x7d"

end Handlers

end SignalRelay
