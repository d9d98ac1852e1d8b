namespace SignalRelay

/-!
# Cutting lists

A list is cut at every separator, or at the first or the last one only.
-/

namespace Pieces

/-- The pieces between separators: one more than there are separators. -/
def cut (isSeparator : α → Bool) : List α → List (List α)
  | [] => [[]]
  | a :: rest =>
      if isSeparator a then
        [] :: cut isSeparator rest
      else
        match cut isSeparator rest with
        | [] => [[a]]
        | piece :: pieces => (a :: piece) :: pieces

/-- The part before the first separator, and the part behind it if there is one. -/
def cutOnce (isSeparator : α → Bool) (list : List α) : List α × Option (List α) :=
  let front := list.takeWhile fun a => !isSeparator a
  match list.dropWhile fun a => !isSeparator a with
  | [] => (front, none)
  | _ :: rest => (front, some rest)

/-- The part before the last separator, if there is one, and the part behind it. -/
def cutLast (isSeparator : α → Bool) (list : List α) : Option (List α) × List α :=
  let (back, front) := cutOnce isSeparator list.reverse
  (front.map List.reverse, back.reverse)

/-- Whether a list occurs within another. -/
def occursIn [BEq α] (part : List α) : List α → Bool
  | [] => part.isEmpty
  | a :: rest => part.isPrefixOf (a :: rest) || occursIn part rest

end Pieces

end SignalRelay
