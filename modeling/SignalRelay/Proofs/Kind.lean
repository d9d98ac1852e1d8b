import SignalRelay.Message.Codec

namespace SignalRelay

/-!
# Spellings of kinds

Reading a spelling gives a kind whose own spelling it is, and never hides a known kind
behind the constructor for unknown ones.
-/

namespace MessageKind

/-- A kind that is not a known spelling kept as an unknown one. -/
def Canonical (kind : MessageKind) : Prop :=
  ∀ spelling, kind = .other spelling → spelling ∉ known.map text

instance (kind : MessageKind) : Decidable kind.Canonical :=
  match kind with
  | .other spelling =>
      decidable_of_iff (spelling ∉ known.map text)
        ⟨fun unknown _ same => by cases same; exact unknown,
          fun canonical => canonical spelling rfl⟩
  | .opened | .error | .idTaken | .heartbeat | .offer | .answer | .candidate | .leave
  | .expire => .isTrue fun _ same => by cases same

/-- The spellings of the kinds that only the relay may send. -/
def reservedTexts : List String := ["OPEN", "ERROR", "ID-TAKEN", "HEARTBEAT"]

@[simp] theorem text_ofText
    (spelling : String) :
    (ofText spelling).text = spelling := by
  unfold ofText
  cases found : known.find? (·.text == spelling) with
  | none =>
      rfl
  | some kind =>
      simpa using List.find?_some found

theorem ofText_canonical
    (spelling : String) :
    (ofText spelling).Canonical := by
  intro kept same
  unfold ofText at same
  cases found : known.find? (·.text == spelling) with
  | none =>
      rw [found, Option.getD_none] at same
      cases same
      simpa [List.find?_eq_none] using found
  | some kind =>
      rw [found, Option.getD_some] at same
      have isKnown := List.mem_of_find?_eq_some found
      rw [same] at isKnown
      simp [known] at isKnown

/-- A canonical kind is read back from its spelling. -/
theorem ofText_text
    {kind : MessageKind}
    (canonical : kind.Canonical) :
    ofText kind.text = kind := by
  cases kind with
  | other spelling =>
      have unknown := canonical spelling rfl
      have notFound : known.find? (·.text == spelling) = none := by
        simpa [List.find?_eq_none] using unknown
      change (known.find? (·.text == spelling)).getD (.other spelling) = _
      rw [notFound, Option.getD_none]
  | _ => rfl

/-- Of the canonical kinds exactly the reserved ones have a reserved spelling. -/
theorem isReserved_iff
    {kind : MessageKind}
    (canonical : kind.Canonical) :
    kind.isReserved = true ↔ kind.text ∈ reservedTexts := by
  cases kind with
  | other spelling =>
      have unknown := canonical spelling rfl
      simp only [known, List.map_cons, text, List.mem_cons, not_or] at unknown
      simp [isReserved, text, reservedTexts, unknown]
  | _ => decide

/-! ## Kinds that requests name -/

/-- Equality of texts in which letters from `a` to `z` stand for their capitals. -/
def SameUpToCase (first second : String) : Prop :=
  first.toList.map Char.toLower = second.toList.map Char.toLower

/-- A text with its letters from `a` to `z` replaced by their capitals. -/
def capitals (text : String) : String :=
  String.ofList (text.toList.map Char.toUpper)

/-- The names by which requests ask for kinds. -/
def requestNames : List String := ["offer", "candidate", "answer", "leave"]

theorem toNat_toUpper
    (c : Char) :
    c.toUpper.toNat =
      if 97 ≤ c.toNat ∧ c.toNat ≤ 122 then c.toNat - 32 else c.toNat := by
  unfold Char.toUpper
  split
  · next small =>
      have lower : 97 ≤ c.toNat := small.1
      have upper : c.toNat ≤ 122 := small.2
      rw [if_pos ⟨lower, upper⟩]
      change (c.val + ('A'.val - 'a'.val)).toNat = _
      rw [UInt32.toNat_add]
      change (c.toNat + 4294967264) % 4294967296 = _
      omega
  · next other =>
      exact (if_neg other).symm

theorem toNat_toLower
    (c : Char) :
    c.toLower.toNat =
      if 65 ≤ c.toNat ∧ c.toNat ≤ 90 then c.toNat + 32 else c.toNat := by
  unfold Char.toLower
  split
  · next capital =>
      have lower : 65 ≤ c.toNat := capital.1
      have upper : c.toNat ≤ 90 := capital.2
      rw [if_pos ⟨lower, upper⟩]
      change (c.val + ('a'.val - 'A'.val)).toNat = _
      rw [UInt32.toNat_add]
      change (c.toNat + 32) % 4294967296 = _
      omega
  · next other =>
      exact (if_neg other).symm

theorem toUpper_eq_iff
    (first second : Char) :
    first.toUpper = second.toUpper ↔ first.toLower = second.toLower := by
  rw [← Char.toNat_inj, ← Char.toNat_inj, toNat_toUpper, toNat_toUpper, toNat_toLower,
    toNat_toLower]
  split <;> split <;> split <;> split <;> omega

/-- Texts are equal up to case exactly if they have the same capitals. -/
theorem capitals_eq_iff
    (first second : String) :
    capitals first = capitals second ↔ SameUpToCase first second := by
  unfold capitals SameUpToCase
  rw [String.ofList_inj]
  generalize first.toList = firstChars
  generalize second.toList = secondChars
  induction firstChars generalizing secondChars with
  | nil =>
      cases secondChars with
      | nil => simp
      | cons c rest => simp
  | cons c rest inductionHypothesis =>
      cases secondChars with
      | nil => simp
      | cons other others =>
          simp only [List.map_cons, List.cons.injEq, toUpper_eq_iff, inductionHypothesis]

theorem ofText_mem_requestable_iff
    (spelling : String) :
    ofText spelling ∈ requestable ↔ spelling ∈ requestable.map text := by
  constructor
  · intro member
    rw [← text_ofText spelling]
    exact List.mem_map_of_mem member
  · intro member
    obtain ⟨kind, isRequestable, rfl⟩ := List.mem_map.mp member
    have canonical : kind.Canonical := by
      revert kind
      decide
    rw [ofText_text canonical]
    exact isRequestable

/-- Requests ask for kinds by their names, in whatever case. -/
theorem ofRequest?_of_named
    {spelling : String}
    (named : ∃ name ∈ requestNames, SameUpToCase spelling name) :
    ofRequest? spelling = some (ofText (capitals spelling)) := by
  obtain ⟨name, member, same⟩ := named
  have namesRequestable : ∀ name ∈ requestNames, ofText (capitals name) ∈ requestable := by
    decide
  apply if_pos
  change ofText (capitals spelling) ∈ requestable
  rw [(capitals_eq_iff spelling name).mpr same]
  exact namesRequestable name member

theorem ofRequest?_of_not_named
    {spelling : String}
    (notNamed : ¬∃ name ∈ requestNames, SameUpToCase spelling name) :
    ofRequest? spelling = none := by
  apply if_neg
  intro isRequestable
  have spelled : capitals spelling ∈ requestNames.map capitals :=
    (ofText_mem_requestable_iff (capitals spelling)).mp isRequestable
  obtain ⟨name, member, same⟩ := List.mem_map.mp spelled
  exact notNamed ⟨name, member, (capitals_eq_iff spelling name).mp same.symm⟩

/-- No request names a kind that only the relay may send. -/
theorem text_not_reserved_of_ofRequest?
    {spelling : String}
    {kind : MessageKind}
    (named : ofRequest? spelling = some kind) :
    kind.text ∉ reservedTexts := by
  unfold ofRequest? at named
  simp only [Option.ite_none_right_eq_some, Option.some.injEq] at named
  obtain ⟨isRequestable, rfl⟩ := named
  revert isRequestable
  generalize ofText _ = kind
  revert kind
  decide

end MessageKind

namespace Message

/-- What is read is a message of a canonical kind. -/
theorem kind_canonical_of_ofOctets
    {octets : Octets}
    {message : Message}
    (read : ofOctets octets = .ok message) :
    message.kind.Canonical := by
  unfold ofOctets at read
  cases contents : form.ofOctets octets with
  | error fault =>
      rw [contents] at read
      cases read
  | ok fields =>
      rw [contents] at read
      cases read
      exact MessageKind.ofText_canonical _

end Message

end SignalRelay
