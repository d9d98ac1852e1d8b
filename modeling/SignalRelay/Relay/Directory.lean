import SignalRelay.Text.Keyed

namespace SignalRelay

/-!
# The directory of clients

Which client is registered under which id.  Clients are shared: one client may stand
under several ids, and it is changed in one place.  The directory therefore holds
references, numbers in the order in which clients came to be.
-/

/-- The number of a client among all that there have been, from zero. -/
abbrev ClientRef := Nat

/-- The registered clients under their ids, in the order of the ids. -/
structure Directory where
  entries : List (String × ClientRef)
  deriving Repr, DecidableEq

namespace Directory

/-- The directory without clients. -/
def empty : Directory := ⟨[]⟩

/-- The client under an id. -/
def find? (directory : Directory) (id : String) : Option ClientRef :=
  directory.entries.lookup id

/-- The ids in ascending order. -/
def ids (directory : Directory) : List String :=
  directory.entries.map (·.1)

/-- How many ids there are. -/
def size (directory : Directory) : Nat :=
  directory.entries.length

/-- Whether there are no ids. -/
def isEmpty (directory : Directory) : Bool :=
  directory.size == 0

/-- Put a client under an id, in place of the one that is there. -/
def insert (directory : Directory) (id : String) (client : ClientRef) : Directory :=
  ⟨Keyed.insert id client directory.entries⟩

/-- Take away the client under an id. -/
def erase (directory : Directory) (id : String) : Directory :=
  ⟨Keyed.erase id directory.entries⟩

end Directory

end SignalRelay
