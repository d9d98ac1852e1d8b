import SignalRelay.Json.Record
import SignalRelay.Proofs.Json.WellFormed

namespace SignalRelay

/-!
# What the readers give

Whatever octets are read, a value that the reader gives is well-formed and nests no deeper
than the reader goes.  Numbers fit because a significand is joined only while it does, and
objects have their keys in order because they are made of the members that were read.
-/

/-- What was read, if anything was, has a property. -/
def Reading.Gives {α : Type} (holds : α → Prop) : Reading α → Prop
  | .ok (value, _) => holds value
  | .error _ => True

/-- What was read has the property. -/
theorem Reading.Gives.of_ok
    {α : Type}
    {holds : α → Prop}
    {reading : Reading α}
    (gives : reading.Gives holds)
    {value : α}
    {rest : Octets}
    (read : reading = .ok (value, rest)) :
    holds value := by
  rw [read] at gives
  exact gives

namespace Lexeme

open Reading

/-! ## Numbers -/

/-- A binary64 number fits. -/
theorem gives_realNumber
    (negative : Bool)
    (significand : Nat)
    (power : Int)
    (rest : Octets) :
    Gives JsonNumber.Fits (realNumber negative significand power rest) := by
  unfold realNumber
  split <;> trivial

theorem gives_readExponent
    (negative : Bool)
    (significand : Nat)
    (power : Int)
    (octets : Octets) :
    Gives JsonNumber.Fits (readExponent negative significand power octets) := by
  unfold readExponent
  generalize readExponentSign octets = signed
  rcases signed with ⟨raised, rest⟩
  cases rest with
  | nil =>
      trivial
  | cons octet following =>
      dsimp only
      split
      · split
        · exact gives_realNumber _ _ _ _
        · split <;> trivial
      · trivial

theorem gives_readFraction
    (negative : Bool)
    (significand dropped : Nat)
    (octets : Octets) :
    Gives JsonNumber.Fits (readFraction negative significand dropped octets) := by
  unfold readFraction
  split
  · trivial
  · trivial
  · next digits rest _ _ _ =>
      dsimp only
      unfold readPower
      split
      · exact gives_realNumber _ _ _ _
      · split
        · exact gives_readExponent _ _ _ _
        · exact gives_realNumber _ _ _ _

theorem joinDigits_le
    {significand : Nat}
    (fits : significand ≤ greatestSignificand)
    (digits : List Nat) :
    (joinDigits significand digits).1 ≤ greatestSignificand := by
  induction digits generalizing significand with
  | nil =>
      exact fits
  | cons digit later inductionHypothesis =>
      unfold joinDigits
      split
      · next joinedFits => exact inductionHypothesis joinedFits
      · exact fits

/-- An integer whose significand fits does itself, or becomes a binary64 number. -/
theorem gives_integerNumber
    (negative : Bool)
    {significand : Nat}
    (fits : significand ≤ greatestSignificand)
    (dropped : Nat)
    (rest : Octets) :
    Gives JsonNumber.Fits (integerNumber negative significand dropped rest) := by
  have limit : greatestSignificand = 0xFFFFFFFFFFFFFFFF := rfl
  have signedLimit : Nat.pow 2 63 = 0x8000000000000000 := rfl
  unfold integerNumber
  split
  · exact gives_realNumber _ _ _ _
  · split
    · change -0x8000000000000000 ≤ (significand : Int) ∧
        (significand : Int) ≤ 0xFFFFFFFFFFFFFFFF
      omega
    · split
      · next limits =>
          change -0x8000000000000000 ≤ -(significand : Int) ∧
            -(significand : Int) ≤ 0xFFFFFFFFFFFFFFFF
          omega
      · exact gives_realNumber _ _ _ _

theorem gives_readAfterInteger
    (negative : Bool)
    {significand : Nat}
    (fits : significand ≤ greatestSignificand)
    (dropped : Nat)
    (octets : Octets) :
    Gives JsonNumber.Fits (readAfterInteger negative significand dropped octets) := by
  unfold readAfterInteger
  split
  · exact gives_integerNumber negative fits dropped []
  · split
    · exact gives_readFraction _ _ _ _
    · split
      · exact gives_readExponent _ _ _ _
      · exact gives_integerNumber negative fits dropped _

/-- Every number that is read fits. -/
theorem gives_readNumber
    (negative : Bool)
    (octets : Octets) :
    Gives JsonNumber.Fits (readNumber negative octets) := by
  unfold readNumber
  split
  · trivial
  · next octet rest =>
      split
      · split
        · exact gives_readAfterInteger negative (Nat.zero_le _) 0 rest
        · trivial
      · split
        · have firstFits : digitValue octet ≤ greatestSignificand :=
            Nat.le_trans (Nat.sub_le _ _)
              (Nat.le_trans (Nat.le_of_lt octet.toNat_lt) (by decide))
          exact gives_readAfterInteger negative (joinDigits_le firstFits _) _ _
        · trivial

end Lexeme

namespace Json

open Lexeme Reading

/-! ## Values -/

/-- A well-formed value that nests no deeper than a number of levels. -/
def WellFormedWithin (levels : Nat) (value : Json) : Prop :=
  value.WellFormed ∧ value.depth ≤ levels

/-- Every value that an element reader gives has a property. -/
def ReaderGives (holds : Json → Prop) (item : ValueReader) : Prop :=
  ∀ bound octets, Gives holds (item bound octets)

theorem gives_readMoreItems
    {holds : Json → Prop}
    {item : ValueReader}
    (itemGives : ReaderGives holds item)
    (bound : Nat)
    {items : List Json}
    (itemsHold : ∀ value ∈ items, holds value)
    (octets : Octets) :
    Gives (fun items => ∀ value ∈ items, holds value)
      (readMoreItems item bound items octets) := by
  induction bound generalizing items octets with
  | zero =>
      trivial
  | succ bound inductionHypothesis =>
      unfold readMoreItems
      split
      · trivial
      · split
        · intro value member
          exact itemsHold value (List.mem_reverse.mp member)
        · split
          · split
            · trivial
            · split
              · trivial
              · split
                · trivial
                · next value rest read =>
                    have valueHolds := (itemGives bound _).of_ok read
                    exact inductionHypothesis
                      (List.forall_mem_cons.mpr ⟨valueHolds, itemsHold⟩) rest
          · trivial

/-- An array of elements that are within some levels is within one more. -/
theorem gives_readArray
    {levels : Nat}
    {item : ValueReader}
    (itemGives : ReaderGives (WellFormedWithin levels) item) :
    ReaderGives (WellFormedWithin (levels + 1)) (readArray item) := by
  intro bound octets
  unfold readArray
  split
  · trivial
  · split
    · exact ⟨trivial, Nat.succ_le_succ (Nat.zero_le levels)⟩
    · split
      · trivial
      · next value rest read =>
          have valueHolds := (itemGives bound _).of_ok read
          split
          · trivial
          · next items last readItems =>
              have itemsHold := (gives_readMoreItems itemGives bound
                (List.forall_mem_singleton.mpr valueHolds) rest).of_ok readItems
              have wellFormed : WellFormedItems items :=
                wellFormedItems_iff.mpr fun item member => (itemsHold item member).1
              have within : depthItems items ≤ levels :=
                depthItems_le_iff.mpr fun item member => (itemsHold item member).2
              exact ⟨wellFormed, Nat.succ_le_succ within⟩

theorem gives_readMember
    {holds : Json → Prop}
    {item : ValueReader}
    (itemGives : ReaderGives holds item)
    (bound : Nat)
    (octets : Octets) :
    Gives (fun member => holds member.2) (readMember item bound octets) := by
  unfold readMember
  split
  · trivial
  · split
    · trivial
    · split
      · trivial
      · next value rest read => exact (itemGives bound _).of_ok read

theorem gives_readMoreMembers
    {holds : Json → Prop}
    {item : ValueReader}
    (itemGives : ReaderGives holds item)
    (bound : Nat)
    {members : List (String × Json)}
    (membersHold : ∀ member ∈ members, holds member.2)
    (octets : Octets) :
    Gives (fun members : List (String × Json) => ∀ member ∈ members, holds member.2)
      (readMoreMembers item bound members octets) := by
  induction bound generalizing members octets with
  | zero =>
      trivial
  | succ bound inductionHypothesis =>
      unfold readMoreMembers
      split
      · trivial
      · split
        · intro member isMember
          exact membersHold member (List.mem_reverse.mp isMember)
        · split
          · split
            · trivial
            · split
              · split
                · trivial
                · next member rest read =>
                    have memberHolds := (gives_readMember itemGives bound _).of_ok read
                    exact inductionHypothesis
                      (List.forall_mem_cons.mpr ⟨memberHolds, membersHold⟩) rest
              · split <;> trivial
          · trivial

/-- An object of values that are within some levels is within one more. -/
theorem gives_readObject
    {levels : Nat}
    {item : ValueReader}
    (itemGives : ReaderGives (WellFormedWithin levels) item) :
    ReaderGives (WellFormedWithin (levels + 1)) (readObject item) := by
  intro bound octets
  unfold readObject
  split
  · trivial
  · split
    · exact ⟨⟨List.Pairwise.nil, trivial⟩, Nat.succ_le_succ (Nat.zero_le levels)⟩
    · split
      · split
        · trivial
        · next member rest read =>
            have memberHolds := (gives_readMember itemGives bound _).of_ok read
            split
            · trivial
            · next members last readMembers =>
                have membersHold := (gives_readMoreMembers itemGives bound
                  (List.forall_mem_singleton.mpr memberHolds) rest).of_ok readMembers
                have wellFormed : WellFormedMembers members :=
                  wellFormedMembers_iff.mpr fun member isMember =>
                    (membersHold member isMember).1
                have within : depthMembers members ≤ levels :=
                  depthMembers_le_iff.mpr fun member isMember =>
                    (membersHold member isMember).2
                exact ⟨wellFormed_ofMembers wellFormed, depth_ofMembers_le within⟩
      · trivial

/-- A value that starts here is within the levels of the readers of arrays and objects. -/
theorem gives_readStarted
    {levels : Nat}
    {array object : Option ValueReader}
    (arrayGives : ∀ read ∈ array, ReaderGives (WellFormedWithin levels) read)
    (objectGives : ∀ read ∈ object, ReaderGives (WellFormedWithin levels) read)
    (bound : Nat)
    (octets : Octets) :
    Gives (WellFormedWithin levels) (readStarted array object bound octets) := by
  -- Words and numbers are flat, so that they are within any number of levels.
  have named : ∀ word rest (value : Json), value.WellFormed → value.depth = 0 →
      Gives (WellFormedWithin levels) (readNamed word value rest) := by
    intro word rest value wellFormed flat
    unfold readNamed
    split
    · trivial
    · exact ⟨wellFormed, flat ▸ Nat.zero_le levels⟩
  have numbered : ∀ negative rest,
      Gives (WellFormedWithin levels) (numberValue (readNumber negative rest)) := by
    intro negative rest
    cases read : readNumber negative rest with
    | error fault =>
        trivial
    | ok result =>
        exact ⟨(gives_readNumber negative rest).of_ok read, Nat.zero_le levels⟩
  unfold readStarted
  split
  · trivial
  · next octet rest =>
      split
      · exact named _ _ _ trivial rfl
      · split
        · exact named _ _ _ trivial rfl
        · split
          · exact named _ _ _ trivial rfl
          · split
            · exact numbered true rest
            · split
              · exact numbered false (octet :: rest)
              · split
                · cases readText bound rest with
                  | error fault => trivial
                  | ok result => exact ⟨trivial, Nat.zero_le levels⟩
                · split
                  · split
                    · trivial
                    · next read => exact arrayGives read rfl bound rest
                  · split
                    · split
                      · trivial
                      · next read => exact objectGives read rfl bound rest
                    · trivial

/-- Every value that is read is well-formed and within the levels of the reader. -/
theorem gives_readValue
    (levels : Nat) :
    ReaderGives (WellFormedWithin levels) (readValue levels) := by
  induction levels with
  | zero =>
      intro bound octets
      change Gives _ (readStarted none none bound (skipBlanks octets))
      exact gives_readStarted (by simp) (by simp) bound _
  | succ levels inductionHypothesis =>
      intro bound octets
      change Gives _ (readStarted (some (readArray (readValue levels)))
        (some (readObject (readValue levels))) bound (skipBlanks octets))
      refine gives_readStarted ?_ ?_ bound _
      · intro read same
        cases same
        exact gives_readArray inductionHypothesis
      · intro read same
        cases same
        exact gives_readObject inductionHypothesis

end Json

end SignalRelay
