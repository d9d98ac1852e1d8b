import Mathlib.Data.List.DropRight

namespace SignalRelay

/-!
# Where reading stops

A loop reads one thing after another until something stops it.  What stops it may depend on what
was read before: a single failure does not, but too many in a row do, and any other reading
begins the count anew.

Between two readings others may do what they like to what the loop shares with them.  An
`Arrival` is a reading together with what was done since the one before.
-/

/-- Something that is read, and what others have done since the reading before. -/
structure Arrival (State Reading : Type) where
  meanwhile : State → State
  reading : Reading

namespace Arrival

/-- A reading before which nobody did anything. -/
def undisturbed {State Reading : Type} (reading : Reading) : Arrival State Reading :=
  ⟨id, reading⟩

end Arrival

/-! ## Failures in a row -/

section Failures

variable {Reading : Type} {isFailure : Reading → Bool} {count : Nat}
  {readings : List Reading}

/-- The last readings are failures, and there are at least so many of them. -/
def FailInARow (isFailure : Reading → Bool) (count : Nat) (readings : List Reading) : Prop :=
  ∃ run, run <:+ readings ∧ run.length = count ∧ ∀ reading ∈ run, isFailure reading = true

/-- How many failures there are behind the last reading that is none. -/
def failuresAtEnd (isFailure : Reading → Bool) (readings : List Reading) : Nat :=
  (readings.rtakeWhile isFailure).length

theorem failuresAtEnd_concat
    (last : Reading) :
    failuresAtEnd isFailure (readings ++ [last]) =
      if isFailure last then failuresAtEnd isFailure readings + 1 else 0 := by
  unfold failuresAtEnd
  rw [List.rtakeWhile_concat]
  split
  · exact List.length_append
  · rfl

theorem failInARow_iff :
    FailInARow isFailure count readings ↔ count ≤ failuresAtEnd isFailure readings := by
  constructor
  · rintro ⟨run, ⟨before, rfl⟩, rfl, failing⟩
    have reversed : ∀ reading ∈ run.reverse, isFailure reading = true :=
      fun reading member => failing reading (List.mem_reverse.mp member)
    rw [failuresAtEnd, List.rtakeWhile, List.reverse_append,
      List.takeWhile_append_of_pos reversed, List.length_reverse, List.length_append,
      List.length_reverse]
    exact Nat.le_add_right _ _
  · intro enough
    have failing : ∀ reading ∈ readings.rtakeWhile isFailure, isFailure reading = true :=
      fun _ => List.mem_rtakeWhile_imp
    refine ⟨(readings.rtakeWhile isFailure).drop (failuresAtEnd isFailure readings - count),
      (List.drop_suffix _ _).trans (List.rtakeWhile_suffix _ _), ?_,
      fun reading member => failing reading (List.mem_of_mem_drop member)⟩
    rw [List.length_drop]
    exact Nat.sub_sub_self enough

/-- One failure more makes one more in a row, and any other reading makes none. -/
theorem failInARow_concat_iff
    (last : Reading) :
    FailInARow isFailure (count + 1) (readings ++ [last]) ↔
      isFailure last = true ∧ count ≤ failuresAtEnd isFailure readings := by
  rw [failInARow_iff, failuresAtEnd_concat]
  split
  · next failing => simp [failing]
  · next passing => simp [passing]

end Failures

/-! ## The first place -/

section Places

variable {Reading : Type} {stops : List Reading → Reading → Prop}

/-- Nothing among some readings stops a loop, given what was read before it. -/
def NeverStops (stops : List Reading → Reading → Prop) (readings : List Reading) : Prop :=
  ∀ before last, before ++ [last] <+: readings → ¬stops before last

/-- A reading stops a loop, and none of those before it does. -/
structure StopsFirst (stops : List Reading → Reading → Prop) (before : List Reading)
    (last : Reading) : Prop where
  here : stops before last
  notBefore : NeverStops stops before

/-- What stops a loop behind what it has read already. -/
def Behind (stops : List Reading → Reading → Prop) (before : List Reading) :
    List Reading → Reading → Prop :=
  fun between => stops (before ++ between)

variable {before between later : List Reading} {first last : Reading}

theorem NeverStops.nil :
    NeverStops stops [] := by
  intro before last isPrefix
  simp at isPrefix

/-- Nothing stops a loop if the first reading does not, and none after it does. -/
theorem NeverStops.cons
    (passes : ¬stops before first)
    (rest : NeverStops (Behind stops (before ++ [first])) later) :
    NeverStops (Behind stops before) (first :: later) := by
  rintro between last ⟨more, whole⟩
  cases between with
  | nil =>
      cases whole
      rwa [Behind, List.append_nil]
  | cons head between =>
      cases whole
      have passesLater := rest between last ⟨more, rfl⟩
      rwa [Behind, List.append_assoc] at passesLater

theorem StopsFirst.nil
    (here : stops before last) :
    StopsFirst (Behind stops before) [] last where
  here := by rwa [Behind, List.append_nil]
  notBefore := .nil

theorem StopsFirst.cons
    (passes : ¬stops before first)
    (rest : StopsFirst (Behind stops (before ++ [first])) between last) :
    StopsFirst (Behind stops before) (first :: between) last where
  here := by
    have here := rest.here
    rwa [Behind, List.append_assoc] at here
  notBefore := .cons passes rest.notBefore

end Places

end SignalRelay
