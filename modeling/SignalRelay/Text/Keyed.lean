import SignalRelay.Text.Utf8

namespace SignalRelay

/-!
# Entries by text

A list of entries that stand under texts, in the order of the texts' octets and without
repetition.
-/

namespace Keyed

/-- Put an entry under a key, in place of one that is there. -/
def insert (key : String) (entry : α) : List (String × α) → List (String × α)
  | [] => [(key, entry)]
  | (other, held) :: rest =>
      if key = other then
        (key, entry) :: rest
      else if Utf8.precedes key other then
        (key, entry) :: (other, held) :: rest
      else
        (other, held) :: insert key entry rest

/-- Take away the entry under a key, if there is one. -/
def erase (key : String) (entries : List (String × α)) : List (String × α) :=
  entries.filter fun entry => entry.1 != key

end Keyed

end SignalRelay
