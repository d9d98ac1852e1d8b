import SignalRelay.Json.Basic
import SignalRelay.Proofs.Keyed

namespace SignalRelay

/-!
# Well-formed values

The type of values has more inhabitants than there are JSON values: members may be out of
order or repeated, and integers may be too large.  A well-formed value has none of that.
Among well-formed values those without binary64 numbers have texts that read back exactly.
-/

namespace JsonNumber

/-- An integer fits 64 bits, signed or not. -/
def Fits : JsonNumber → Prop
  | .integer value => -0x8000000000000000 ≤ value ∧ value ≤ 0xFFFFFFFFFFFFFFFF
  | .real _ => True

/-- A number that is kept exactly. -/
def IsInteger : JsonNumber → Prop
  | .integer _ => True
  | .real _ => False

end JsonNumber

namespace Json

mutual

/-- Integers fit, and objects have their keys in order and without repetition. -/
def WellFormed : Json → Prop
  | .number value => value.Fits
  | .array items => WellFormedItems items
  | .object members => Keyed.Ascending members ∧ WellFormedMembers members
  | .null | .bool _ | .string _ => True

def WellFormedItems : List Json → Prop
  | [] => True
  | item :: rest => WellFormed item ∧ WellFormedItems rest

def WellFormedMembers : List (String × Json) → Prop
  | [] => True
  | (_, value) :: rest => WellFormed value ∧ WellFormedMembers rest

end

mutual

/-- No number is a binary64 one. -/
def RealFree : Json → Prop
  | .number value => value.IsInteger
  | .array items => RealFreeItems items
  | .object members => RealFreeMembers members
  | .null | .bool _ | .string _ => True

def RealFreeItems : List Json → Prop
  | [] => True
  | item :: rest => RealFree item ∧ RealFreeItems rest

def RealFreeMembers : List (String × Json) → Prop
  | [] => True
  | (_, value) :: rest => RealFree value ∧ RealFreeMembers rest

end

mutual

/-- Every number is an integer that fits; members may come in any order and more than once. -/
def Integral : Json → Prop
  | .number value => value.IsInteger ∧ value.Fits
  | .array items => IntegralItems items
  | .object members => IntegralMembers members
  | .null | .bool _ | .string _ => True

def IntegralItems : List Json → Prop
  | [] => True
  | item :: rest => Integral item ∧ IntegralItems rest

def IntegralMembers : List (String × Json) → Prop
  | [] => True
  | (_, value) :: rest => Integral value ∧ IntegralMembers rest

end

mutual

theorem integral_of_wellFormed
    {value : Json}
    (wellFormed : value.WellFormed)
    (realFree : value.RealFree) :
    value.Integral := by
  match value with
  | .null | .bool _ | .string _ =>
      trivial
  | .number _ =>
      exact ⟨realFree, wellFormed⟩
  | .array _ =>
      exact integralItems_of_wellFormed wellFormed realFree
  | .object _ =>
      exact integralMembers_of_wellFormed wellFormed.2 realFree

theorem integralItems_of_wellFormed
    {items : List Json}
    (wellFormed : WellFormedItems items)
    (realFree : RealFreeItems items) :
    IntegralItems items := by
  match items with
  | [] =>
      trivial
  | _ :: _ =>
      exact ⟨integral_of_wellFormed wellFormed.1 realFree.1,
        integralItems_of_wellFormed wellFormed.2 realFree.2⟩

theorem integralMembers_of_wellFormed
    {members : List (String × Json)}
    (wellFormed : WellFormedMembers members)
    (realFree : RealFreeMembers members) :
    IntegralMembers members := by
  match members with
  | [] =>
      trivial
  | (_, _) :: _ =>
      exact ⟨integral_of_wellFormed wellFormed.1 realFree.1,
        integralMembers_of_wellFormed wellFormed.2 realFree.2⟩

end

theorem isNull_iff
    {value : Json} :
    value.isNull = true ↔ value = .null := by
  cases value <;> simp [isNull]

theorem wellFormedItems_iff
    {items : List Json} :
    WellFormedItems items ↔ ∀ item ∈ items, item.WellFormed := by
  induction items with
  | nil =>
      simp [WellFormedItems]
  | cons item rest inductionHypothesis =>
      simp [WellFormedItems, inductionHypothesis]

theorem wellFormedMembers_iff
    {members : List (String × Json)} :
    WellFormedMembers members ↔ ∀ member ∈ members, member.2.WellFormed := by
  induction members with
  | nil =>
      simp [WellFormedMembers]
  | cons member rest inductionHypothesis =>
      simp only [WellFormedMembers, inductionHypothesis, List.forall_mem_cons]

theorem depthItems_le_iff
    {items : List Json}
    {levels : Nat} :
    depthItems items ≤ levels ↔ ∀ item ∈ items, item.depth ≤ levels := by
  induction items with
  | nil =>
      simp [depthItems]
  | cons item rest inductionHypothesis =>
      simp only [depthItems, Nat.max_le, inductionHypothesis, List.forall_mem_cons]

theorem depthMembers_le_iff
    {members : List (String × Json)}
    {levels : Nat} :
    depthMembers members ≤ levels ↔ ∀ member ∈ members, member.2.depth ≤ levels := by
  induction members with
  | nil =>
      simp [depthMembers]
  | cons member rest inductionHypothesis =>
      simp only [depthMembers, Nat.max_le, inductionHypothesis, List.forall_mem_cons]

/-- Members in order are the object that is made of them. -/
theorem ofMembers_of_ascending
    {members : List (String × Json)}
    (ascending : Keyed.Ascending members) :
    ofMembers members = .object members :=
  congrArg Json.object (@Keyed.foldl_insert _ [] members ascending)

/-- The object made of well-formed members is well-formed, in whatever order they come. -/
theorem wellFormed_ofMembers
    {members : List (String × Json)}
    (wellFormed : WellFormedMembers members) :
    (ofMembers members).WellFormed := by
  refine ⟨Keyed.ascending_foldl_insert members List.Pairwise.nil, ?_⟩
  refine wellFormedMembers_iff.mpr ?_
  intro member kept
  rcases Keyed.mem_of_mem_foldl_insert kept with impossible | given
  · cases impossible
  · exact wellFormedMembers_iff.mp wellFormed member given

/-- The object made of members is at most one level deeper than they are. -/
theorem depth_ofMembers_le
    {members : List (String × Json)}
    {levels : Nat}
    (within : depthMembers members ≤ levels) :
    (ofMembers members).depth ≤ levels + 1 := by
  refine Nat.succ_le_succ (depthMembers_le_iff.mpr ?_)
  intro member kept
  rcases Keyed.mem_of_mem_foldl_insert kept with impossible | given
  · cases impossible
  · exact depthMembers_le_iff.mp within member given

end Json

end SignalRelay
