import SignalRelay.Message.Codec

namespace SignalRelay

/-!
# Outboxes

What is waiting to be written to a connection: a bounded queue, first in first out, and
beside it a signal that asks for closing ahead of the queue.  The signal is raised only
when a closing finds the queue full, and it holds at most one request.
-/

/-- One thing to write to a connection. -/
inductive Outgoing where
  | text : String → Outgoing
  /-- A normal closure without a reason. -/
  | close : Outgoing
  deriving Repr, DecidableEq

/-- Why something was not queued. -/
inductive OutboxFault where
  | full : OutboxFault
  /-- Nobody takes from the queue any more. -/
  | closed : OutboxFault
  deriving Repr, DecidableEq

/-- An outbox. -/
structure Outbox where
  items : List Outgoing
  /-- Whether somebody takes from the queue. -/
  receiving : Bool
  /-- Whether closing was asked for ahead of the queue. -/
  closeRequested : Bool
  deriving Repr, DecidableEq

namespace Outbox

/-- How many items a queue holds at most. -/
def capacity : Nat := 256

/-- The outbox of a new connection. -/
def empty : Outbox := ⟨[], true, false⟩

/-- Why an item cannot be queued now, if it cannot. -/
def fault? (outbox : Outbox) : Option OutboxFault :=
  if !outbox.receiving then some .closed
  else if capacity ≤ outbox.items.length then some .full
  else none

/-- Queue an item behind the others. -/
def push (item : Outgoing) (outbox : Outbox) : Outbox :=
  { outbox with items := outbox.items ++ [item] }

/-- Queue an item if there is room. -/
def offer (item : Outgoing) (outbox : Outbox) : Except OutboxFault Outbox :=
  match outbox.fault? with
  | some fault => .error fault
  | none => .ok (outbox.push item)

/-- Ask for closing: behind the queue, or ahead of it if the queue is full. -/
def close (outbox : Outbox) : Outbox :=
  match outbox.offer .close with
  | .ok outbox => outbox
  | .error .full => { outbox with closeRequested := true }
  | .error .closed => outbox

/-- What is written next, and the outbox after that.  A request to close comes first. -/
def next? (outbox : Outbox) : Option (Outgoing × Outbox) :=
  if outbox.closeRequested then
    some (.close, { outbox with closeRequested := false })
  else
    match outbox.items with
    | [] => none
    | item :: rest => some (item, { outbox with items := rest })

/-- How many things are left to write. -/
def pending (outbox : Outbox) : Nat :=
  outbox.items.length + outbox.closeRequested.toNat

/-- Taking something leaves less to write. -/
theorem pending_of_next? {outbox rest : Outbox} {item : Outgoing}
    (taken : outbox.next? = some (item, rest)) : rest.pending < outbox.pending := by
  unfold next? at taken
  split at taken
  next requested =>
    cases taken
    simp [pending, requested]
  next quiet =>
    split at taken
    · cases taken
    · next held =>
        cases taken
        simp [pending, held]

/-- Take up to a number of items from the front of the queue. -/
def take (count : Nat) (outbox : Outbox) : List Outgoing × Outbox :=
  (outbox.items.take count, { outbox with items := outbox.items.drop count })

/-- Give up the receiving end, with everything that is queued. -/
def discard (outbox : Outbox) : Outbox :=
  { outbox with items := [], receiving := false }

end Outbox

end SignalRelay
