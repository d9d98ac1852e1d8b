import SignalRelay.Proofs.Codec
import SignalRelay.Proofs.Json.RecordDocuments

namespace SignalRelay

/-!
# The documents that are messages

A message may be presented as an object, whose members come in any order and among others, or as
an array of up to four elements.  What a document presents is said in terms of the values that it
gives for each field, and the reader takes just the documents that present a message.
-/

namespace Message

open Grammar Json Utf8

/-- A text that may be missing: nothing is given for it, or `null`, or a string. -/
inductive OptionalText : List Json → Option String → Prop where
  | missing : OptionalText [] none
  | null : OptionalText [.null] none
  | given (text : String) : OptionalText [.string text] (some text)

/-- A payload: `null` if nothing is given for it, and otherwise what the value stands for, which
nests at most 126 deep. -/
inductive Payload : List Json → Json → Prop where
  | missing : Payload [] .null
  | given {value : Json} (within : value.depth ≤ 126) : Payload [value] value.settled

/-- The values that a document gives for the fields of a message. -/
structure Given where
  types : List Json
  sources : List Json
  destinations : List Json
  payloads : List Json

namespace Given

/-- Members give their values for the fields of their names. -/
def ofMembers (members : List (String × Json)) : Given where
  types := valuesOf "type" members
  sources := valuesOf "src" members
  destinations := valuesOf "dst" members
  payloads := valuesOf "payload" members

/-- Elements are given for the fields in order. -/
def ofItems (items : List Json) : Given where
  types := items[0]?.toList
  sources := items[1]?.toList
  destinations := items[2]?.toList
  payloads := items[3]?.toList

/-- Of the values that are given a message can be made, and it is this one. -/
structure Tells (given : Given) (message : Message) : Prop where
  kind : ∃ text, given.types = [.string text] ∧ message.kind = .ofText text
  source : OptionalText given.sources message.source
  destination : OptionalText given.destinations message.destination
  payload : Payload given.payloads message.payload

end Given

/-- A document is a message. -/
inductive Presents : Json → Message → Prop where
  | object
      {members : List (String × Json)}
      {message : Message}
      (tells : (Given.ofMembers members).Tells message) :
      Presents (.object members) message
  | array
      {items : List Json}
      {message : Message}
      (short : items.length ≤ 4)
      (tells : (Given.ofItems items).Tells message) :
      Presents (.array items) message

/-- The names of the fields, in the order of the elements. -/
def fieldNames : List String := ["type", "src", "dst", "payload"]

/-! ## From fields to messages -/

theorem filled?_text_iff
    {values : List Json}
    {content : Option FieldContent} :
    FieldForm.text.filled? none values = some content ↔
      ∃ text, values = [.string text] ∧ content = some (.text text) := by
  match values with
  | [] =>
      simp [FieldForm.filled?]
  | [value] =>
      cases value <;> simp [FieldForm.filled?, FieldForm.content?, eq_comm]
  | _ :: _ :: _ =>
      simp [FieldForm.filled?]

theorem filled?_optionalText_iff
    {values : List Json}
    {text : Option String} :
    (FieldForm.optionalText.filled? none values).map FieldContent.text? = some text ↔
      OptionalText values text := by
  constructor
  · intro filled
    match values with
    | [] =>
        cases filled
        exact .missing
    | [.null] =>
        cases filled
        exact .null
    | [.string given] =>
        cases filled
        exact .given given
    | [.bool _] | [.number _] | [.array _] | [.object _] | _ :: _ :: _ =>
        cases filled
  · rintro (_ | _ | _) <;> rfl

theorem filled?_value_iff
    {values : List Json}
    {payload : Json} :
    (FieldForm.value.filled? none values).map FieldContent.json = some payload ↔
      Payload values payload := by
  constructor
  · intro filled
    match values with
    | [] =>
        cases filled
        exact .missing
    | [value] =>
        by_cases within : value.depth ≤ RecordForm.fieldDepth
        · simp only [FieldForm.filled?, FieldForm.content?, within, ↓reduceIte, Option.map_some,
            FieldContent.json, Option.some.injEq] at filled
          subst filled
          exact .given within
        · simp only [FieldForm.filled?, FieldForm.content?, within, ↓reduceIte, Option.map_none,
            reduceCtorEq] at filled
    | _ :: _ :: _ =>
        cases filled
  · rintro (_ | within)
    · rfl
    · have within : _ ≤ RecordForm.fieldDepth := within
      simp only [FieldForm.filled?, FieldForm.content?, within, ↓reduceIte, Option.map_some,
        FieldContent.json]

/-- What the fields hold when values are given for them. -/
def Given.contents? (given : Given) : Option FieldContents :=
  (FieldForm.text.filled? none given.types).bind fun kind =>
    ((FieldForm.optionalText.filled? none given.sources).bind fun source =>
      ((FieldForm.optionalText.filled? none given.destinations).bind fun destination =>
        ((FieldForm.value.filled? none given.payloads).bind fun payload =>
          (some []).map (payload :: ·)).map (destination :: ·)).map (source :: ·)).map (kind :: ·)

theorem presented?_object
    (members : List (String × Json)) :
    form.presented? (.object members) = (Given.ofMembers members).contents? :=
  rfl

theorem presented?_array
    {items : List Json}
    (short : items.length ≤ 4) :
    form.presented? (.array items) = (Given.ofItems items).contents? := by
  match items with
  | [] | [_] | [_, _] | [_, _, _] | [_, _, _, _] =>
      rfl
  | _ :: _ :: _ :: _ :: _ :: _ =>
      simp only [List.length_cons] at short
      omega

theorem presented?_array_of_long
    {items : List Json}
    (long : 4 < items.length) :
    form.presented? (.array items) = none := by
  match items with
  | [] | [_] | [_, _] | [_, _, _] | [_, _, _, _] =>
      simp only [List.length_cons, List.length_nil] at long
      omega
  | _ :: _ :: _ :: _ :: _ :: _ =>
      simp [RecordForm.presented?, RecordForm.ordered?, form]

/-- The message that is made of given values is the one that they tell. -/
theorem Given.tells_iff
    {given : Given}
    {message : Message} :
    given.contents?.map ofContents = some message ↔ given.Tells message := by
  constructor
  · intro made
    obtain ⟨contents, filled, rfl⟩ := Option.map_eq_some_iff.mp made
    simp only [contents?, Option.bind_eq_some_iff, Option.map_eq_some_iff] at filled
    obtain ⟨kind, kindFilled, _, ⟨source, sourceFilled, _, ⟨destination, destinationFilled, _,
      ⟨payload, payloadFilled, _, noMore, rfl⟩, rfl⟩, rfl⟩, rfl⟩ := filled
    cases noMore
    obtain ⟨text, types, rfl⟩ := filled?_text_iff.mp kindFilled
    exact {
      kind := ⟨text, types, rfl⟩
      source := filled?_optionalText_iff.mp (Option.map_eq_some_iff.mpr ⟨_, sourceFilled, rfl⟩)
      destination :=
        filled?_optionalText_iff.mp (Option.map_eq_some_iff.mpr ⟨_, destinationFilled, rfl⟩)
      payload := filled?_value_iff.mp (Option.map_eq_some_iff.mpr ⟨_, payloadFilled, rfl⟩)
    }
  · rintro ⟨⟨text, types, kind⟩, source, destination, payload⟩
    have kindFilled := filled?_text_iff.mpr ⟨text, types, rfl⟩
    obtain ⟨_, sourceFilled, sourceText⟩ :=
      Option.map_eq_some_iff.mp (filled?_optionalText_iff.mpr source)
    obtain ⟨_, destinationFilled, destinationText⟩ :=
      Option.map_eq_some_iff.mp (filled?_optionalText_iff.mpr destination)
    obtain ⟨_, payloadFilled, payloadJson⟩ :=
      Option.map_eq_some_iff.mp (filled?_value_iff.mpr payload)
    obtain ⟨messageKind, messageSource, messageDestination, messagePayload⟩ := message
    subst kind sourceText destinationText payloadJson
    simp only [contents?, kindFilled, sourceFilled, destinationFilled, payloadFilled,
      Option.bind_some, Option.map_some]
    rfl

/-- A document presents the message that is made of what it gives for the fields. -/
theorem presents_iff
    {document : Json}
    {message : Message} :
    Presents document message ↔ (form.presented? document).map ofContents = some message := by
  constructor
  · rintro (tells | ⟨short, tells⟩)
    · rw [presented?_object]
      exact Given.tells_iff.mpr tells
    · rw [presented?_array short]
      exact Given.tells_iff.mpr tells
  · intro made
    cases document with
    | object members =>
        rw [presented?_object] at made
        exact .object (Given.tells_iff.mp made)
    | array items =>
        rcases Nat.lt_or_ge 4 items.length with long | short
        · rw [presented?_array_of_long long] at made
          cases made
        · rw [presented?_array short] at made
          exact .array short (Given.tells_iff.mp made)
    | _ =>
        cases made

/-- From a text of a document just the message is read that the document presents. -/
theorem ofText_iff_presents
    {document : Json}
    {text : String}
    (written : document.IsWritten (encode text))
    {message : Message} :
    ofText text = .ok message ↔ Presents document message := by
  have read := form.toOption_ofOctets_written (by decide) written
  rw [presents_iff, ← read]
  unfold ofText ofOctets
  cases form.ofOctets (encode text) with
  | error fault =>
      constructor <;> intro made <;> cases made
  | ok contents =>
      constructor
      · intro made
        cases made
        rfl
      · intro made
        cases made
        rfl

/-! ## Repeated keys -/

theorem settledMembers_eq
    (members : List (String × Json)) :
    settledMembers members = members.map fun member => (member.1, member.2.settled) := by
  induction members with
  | nil =>
      rfl
  | cons member members inductionHypothesis =>
      rw [settledMembers, inductionHypothesis, List.map_cons]

/-- Of several members with one key the last counts, with its own repetitions settled. -/
theorem member?_settled
    (members : List (String × Json))
    (key : String) :
    (Json.object members).settled.member? key =
      ((valuesOf key members).getLast?).map settled := by
  have found := Keyed.lookup_foldl_insert key (settledMembers members) []
  rw [settledMembers_eq, List.filter_map, List.map_map] at found
  rw [settled, settledMembers_eq]
  refine found.trans ?_
  rw [List.lookup_nil, Option.or_none, valuesOf, ← List.getLast?_map, List.map_map]
  rfl

/-! ## The same message in another form -/

theorem OptionalText.of_perm
    {values others : List Json}
    {text : Option String}
    (told : OptionalText values text)
    (same : values.Perm others) :
    OptionalText others text := by
  cases told with
  | missing => exact same.nil_eq ▸ .missing
  | null => exact List.singleton_perm.mp same ▸ .null
  | given text => exact List.singleton_perm.mp same ▸ .given text

theorem Payload.of_perm
    {values others : List Json}
    {payload : Json}
    (told : Payload values payload)
    (same : values.Perm others) :
    Payload others payload := by
  cases told with
  | missing => exact same.nil_eq ▸ .missing
  | given within => exact List.singleton_perm.mp same ▸ .given within

/-- In whatever order values are given for a field, they tell the same. -/
theorem Given.Tells.of_perm
    {given other : Given}
    {message : Message}
    (tells : given.Tells message)
    (types : given.types.Perm other.types)
    (sources : given.sources.Perm other.sources)
    (destinations : given.destinations.Perm other.destinations)
    (payloads : given.payloads.Perm other.payloads) :
    other.Tells message := by
  obtain ⟨⟨text, given, kind⟩, source, destination, payload⟩ := tells
  rw [given] at types
  exact ⟨⟨text, (List.singleton_perm.mp types).symm, kind⟩, source.of_perm sources,
    destination.of_perm destinations, payload.of_perm payloads⟩

/-- The members that are fields of a message. -/
def fieldMembers (members : List (String × Json)) : List (String × Json) :=
  members.filter fun member => fieldNames.contains member.1

theorem valuesOf_fieldMembers
    {name : String}
    (isField : name ∈ fieldNames)
    (members : List (String × Json)) :
    valuesOf name (fieldMembers members) = valuesOf name members := by
  unfold valuesOf fieldMembers
  rw [List.filter_filter]
  congr 1
  refine List.filter_congr fun member _ => ?_
  by_cases same : member.1 = name
  · simp [same, isField]
  · simp [same]

theorem valuesOf_perm
    {members others : List (String × Json)}
    (same : (fieldMembers members).Perm (fieldMembers others))
    {name : String}
    (isField : name ∈ fieldNames) :
    (valuesOf name members).Perm (valuesOf name others) := by
  rw [← valuesOf_fieldMembers isField members, ← valuesOf_fieldMembers isField others]
  exact (same.filter _).map _

/-- Neither the order of the members matters, nor what other members there are. -/
theorem presents_of_fieldMembers
    {members others : List (String × Json)}
    (same : (fieldMembers members).Perm (fieldMembers others))
    {message : Message}
    (presents : Presents (.object members) message) :
    Presents (.object others) message := by
  obtain ⟨tells⟩ := presents
  exact .object (tells.of_perm (valuesOf_perm same (by decide)) (valuesOf_perm same (by decide))
    (valuesOf_perm same (by decide)) (valuesOf_perm same (by decide)))

/-- Elements give for the fields what members under the names of the fields do. -/
theorem ofItems_eq
    {items : List Json}
    (short : items.length ≤ 4) :
    Given.ofItems items = Given.ofMembers (fieldNames.zip items) := by
  match items with
  | [] | [_] | [_, _] | [_, _, _] | [_, _, _, _] =>
      rfl
  | _ :: _ :: _ :: _ :: _ :: _ =>
      simp only [List.length_cons] at short
      omega

/-- An array presents what the object does whose members name its elements. -/
theorem presents_array_iff
    {items : List Json}
    (short : items.length ≤ 4)
    {message : Message} :
    Presents (.array items) message ↔ Presents (.object (fieldNames.zip items)) message := by
  constructor
  · rintro (_ | ⟨_, tells⟩)
    exact .object (ofItems_eq short ▸ tells)
  · rintro (tells | _)
    exact .array short (ofItems_eq short ▸ tells)

/-! ## Main result -/

/--
Which documents are messages.  Every document whose numbers are integers that fit has a text, and
from each of its texts, whatever the blanks and escapes, just the message is read that the document
presents.  Of several members with one key in a payload the last counts.  Texts of objects that
have the same members for the fields are read alike, in whatever order these come and whatever
others there are.  So are texts of an array and of the object whose members name its elements.
-/
theorem read_as_presented :
    (∀ document : Json, document.Integral → document.IsWritten (encode document.render)) ∧
      (∀ (document : Json) (text : String),
        document.IsWritten (encode text) →
        ∀ message, ofText text = .ok message ↔ Presents document message) ∧
      (∀ (members : List (String × Json)) (key : String),
        (Json.object members).settled.member? key =
          ((valuesOf key members).getLast?).map settled) ∧
      (∀ (members others : List (String × Json)) (text otherText : String),
        (fieldMembers members).Perm (fieldMembers others) →
        (Json.object members).IsWritten (encode text) →
        (Json.object others).IsWritten (encode otherText) →
        ∀ message, ofText text = .ok message ↔ ofText otherText = .ok message) ∧
      ∀ (items : List Json) (text otherText : String),
        items.length ≤ 4 →
        (Json.array items).IsWritten (encode text) →
        (Json.object (fieldNames.zip items)).IsWritten (encode otherText) →
        ∀ message, ofText text = .ok message ↔ ofText otherText = .ok message := by
  refine ⟨fun _ => isWritten_render, ?_, member?_settled, ?_, ?_⟩
  · intro document text written message
    exact ofText_iff_presents written
  · intro members others text otherText same written otherWritten message
    rw [ofText_iff_presents written, ofText_iff_presents otherWritten]
    exact ⟨presents_of_fieldMembers same, presents_of_fieldMembers same.symm⟩
  · intro items text otherText short written otherWritten message
    rw [ofText_iff_presents written, ofText_iff_presents otherWritten]
    exact presents_array_iff short

/-- Members of which one is repeated inside, and one that is no field nests deeper than a payload
may. -/
def looseMembers : List (String × Json) :=
  [("payload", .object [("a", .null), ("a", .bool true)]), ("note", nested 200),
    ("type", .string "HELLO")]

/-- The same members for the fields, in another order and alone. -/
def plainMembers : List (String × Json) :=
  [("type", .string "HELLO"), ("payload", .object [("a", .null), ("a", .bool true)])]

/-- An array with blanks in it, and one message in two forms and as an array. -/
theorem read_as_presented_of_loose_texts :
    ofText " [\"OFFER\" ,null]\n" = .ok ⟨.offer, none, none, .null⟩ ∧
      ofText (Json.object looseMembers).render =
        .ok ⟨.other "HELLO", none, none, .object [("a", .bool true)]⟩ ∧
      ofText (Json.object plainMembers).render =
        .ok ⟨.other "HELLO", none, none, .object [("a", .bool true)]⟩ ∧
      (ofText (Json.array [.string "OFFER", .null]).render = .ok ⟨.offer, none, none, .null⟩ ↔
        ofText (Json.object [("type", .string "OFFER"), ("src", .null)]).render =
          .ok ⟨.offer, none, none, .null⟩) ∧
      (Json.object [("a", .null), ("a", .bool true)]).settled.member? "a" = some (.bool true) := by
  obtain ⟨texts, read, last, alike, named⟩ := read_as_presented
  have octets : encode " [\"OFFER\" ,null]\n" =
      ' '.toUInt8 :: '['.toUInt8 :: '"'.toUInt8 ::
        (octetsOf ("OFFER".toList.flatMap escape) ++ '"'.toUInt8 ::
          ' '.toUInt8 :: ','.toUInt8 ::
            (octetsOf "null".toList ++ [']'.toUInt8, '\n'.toUInt8])) := by
    rfl
  have spaced : (Json.array [.string "OFFER", .null]).IsWritten
      (encode " [\"OFFER\" ,null]\n") := by
    rw [octets]
    exact ⟨_, _, Blanks.cons (by decide) (Blanks.refl _),
      ⟨_, _, rfl, ⟨_, _, Blanks.refl _, ⟨_, rfl, Characters.escaped "OFFER".toList _⟩,
        Blanks.cons (by decide) (Blanks.refl _)⟩, ⟨_, _, rfl, Padded.tight rfl, rfl⟩⟩,
      Blanks.cons (by decide) (Blanks.refl _)⟩
  obtain ⟨wellFormed, realFree, -⟩ := nested_spec 200
  have loose := texts (.object looseMembers)
    ⟨⟨trivial, trivial, trivial⟩, integral_of_wellFormed wellFormed realFree, trivial, trivial⟩
  have plain := texts (.object plainMembers)
    ⟨trivial, ⟨trivial, trivial, trivial⟩, trivial⟩
  have greeting := (read _ _ plain ⟨.other "HELLO", none, none, .object [("a", .bool true)]⟩).mpr
    (.object ⟨⟨_, rfl, rfl⟩, .missing, .missing, .given (by decide)⟩)
  refine ⟨?_, ?_, greeting, ?_, last _ "a"⟩
  · exact (read _ _ spaced _).mpr
      (.array (by decide) ⟨⟨_, rfl, rfl⟩, .null, .missing, .missing⟩)
  · exact (alike looseMembers plainMembers _ _ (.swap _ _ _) loose plain _).mpr greeting
  · exact named [.string "OFFER", .null] _ _ (by decide)
      (texts _ ⟨trivial, trivial, trivial⟩) (texts _ ⟨trivial, trivial, trivial⟩) _

end Message

end SignalRelay
