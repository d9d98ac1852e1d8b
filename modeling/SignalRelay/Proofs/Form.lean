import SignalRelay.Proofs.Url

namespace SignalRelay

/-!
# Reading what was form-encoded

A pair that was added to the end of a query is read back as it was, behind the pairs that the
query had before.  A form is made of characters that stand for themselves, plus signs and
escapes, so that no ampersand and no equals sign of a name or a value is taken for one between
them.
-/

/-! ## Cutting -/

namespace Pieces

variable {α : Type} {isSeparator : α → Bool}

/-- A list is cut at a separator, whatever stands on either side of it. -/
theorem cut_append_cons
    (isSeparator : α → Bool)
    (front : List α)
    {a : α}
    (separates : isSeparator a = true)
    (rest : List α) :
    cut isSeparator (front ++ a :: rest) = cut isSeparator front ++ cut isSeparator rest := by
  simp only [cut_eq_splitOnP]
  exact List.splitOnP_append_cons _ _ separates

theorem cut_of_absent
    {list : List α}
    (absent : ∀ a ∈ list, isSeparator a = false) :
    cut isSeparator list = [list] := by
  rw [cut_eq_splitOnP]
  exact List.splitOnP_eq_singleton fun a member => absent a member

theorem cutOnce_append_cons
    {front : List α}
    (absent : ∀ a ∈ front, isSeparator a = false)
    {a : α}
    (separates : isSeparator a = true)
    (rest : List α) :
    cutOnce isSeparator (front ++ a :: rest) = (front, some rest) := by
  have goesOn : ∀ a ∈ front, (!isSeparator a) = true := by simpa using absent
  have taken : (front ++ a :: rest).takeWhile (fun a => !isSeparator a) = front := by
    rw [List.takeWhile_append_of_pos goesOn, List.takeWhile_cons_of_neg (by simp [separates]),
      List.append_nil]
  have left : (front ++ a :: rest).dropWhile (fun a => !isSeparator a) = a :: rest := by
    rw [List.dropWhile_append_of_pos goesOn, List.dropWhile_cons_of_neg (by simp [separates])]
  rw [cutOnce, taken, left]

end Pieces

/-! ## Escapes -/

namespace Percent

theorem decode_cons_of_ne
    {octet : UInt8}
    (noSign : octet ≠ '%'.toUInt8)
    (rest : Octets) :
    decode (octet :: rest) = octet :: decode rest := by
  match rest with
  | [] => rfl
  | [_] => rfl
  | _ :: _ :: _ => rw [decode, if_neg noSign]

theorem of_digit :
    ∀ value < 16,
      (digit value).toNat < 0x80 ∧
        (digit value).isAlphanum = true ∧
        digitValue? (digit value).toUInt8 = some (UInt8.ofNat value) := by
  decide

theorem mem_encodeOctet
    {octet : UInt8}
    {c : Char}
    (member : c ∈ encodeOctet octet) :
    c = '%' ∨ c.isAlphanum = true := by
  have high := of_digit (octet.toNat / 16) (by have := octet.toNat_lt; omega)
  have low := of_digit (octet.toNat % 16) (Nat.mod_lt _ (by decide))
  simp only [encodeOctet, List.mem_cons, List.not_mem_nil, or_false] at member
  rcases member with rfl | rfl | rfl
  · exact .inl rfl
  · exact .inr high.2.1
  · exact .inr low.2.1

/-- The escape of an octet is read back, whatever stands behind it. -/
theorem decode_encodeOctet
    (octet : UInt8)
    (rest : Octets) :
    decode (Utf8.octetsOf (encodeOctet octet) ++ rest) = octet :: decode rest := by
  obtain ⟨highAscii, -, highValue⟩ :=
    of_digit (octet.toNat / 16) (by have := octet.toNat_lt; omega)
  obtain ⟨lowAscii, -, lowValue⟩ := of_digit (octet.toNat % 16) (Nat.mod_lt _ (by decide))
  have joined :
      UInt8.ofNat (octet.toNat / 16) * 16 + UInt8.ofNat (octet.toNat % 16) = octet := by
    apply UInt8.toNat_inj.mp
    have small := octet.toNat_lt
    simp
    omega
  rw [encodeOctet, Utf8.octetsOf_cons_ascii (by decide), Utf8.octetsOf_cons_ascii highAscii,
    Utf8.octetsOf_cons_ascii lowAscii, Utf8.octetsOf_nil]
  simp only [List.cons_append, List.nil_append, decode, ↓reduceIte, highValue, lowValue, joined]

theorem decode_encodeOctets
    (octets rest : Octets) :
    decode (Utf8.octetsOf (octets.flatMap encodeOctet) ++ rest) = octets ++ decode rest := by
  induction octets with
  | nil => rfl
  | cons octet later inductionHypothesis =>
      rw [List.flatMap_cons, Utf8.octetsOf_append, List.append_assoc, decode_encodeOctet,
        inductionHypothesis]
      rfl

end Percent

/-! ## Names and values -/

namespace Form

/-- Whether a character may stand in the form of a name or a value. -/
def isFormChar (c : Char) : Bool :=
  isKept c || c == '+' || c == '%'

theorem ascii_of_isFormChar
    {c : Char}
    (inForm : isFormChar c = true) :
    c.toNat < 0x80 := by
  simp only [isFormChar, isKept, Bool.or_eq_true, beq_iff_eq] at inForm
  rcases inForm with (((((alphanumeric | rfl) | rfl) | rfl) | rfl) | rfl) | rfl
  · have plain : isPlain c = true := by simp [isPlain, alphanumeric]
    have kept := (of_isPlain plain).1
    simp only [UrlPath.isKept, Bool.and_eq_true, decide_eq_true_eq] at kept
    omega
  all_goals decide

/-- Nothing in the form of a name or a value is taken for a sign between them. -/
theorem of_isFormChar
    {c : Char}
    (inForm : isFormChar c = true) :
    c.toUInt8 ≠ '&'.toUInt8 ∧ c.toUInt8 ≠ '='.toUInt8 :=
  of_ascii
    (fun c => isFormChar c = true → c.toUInt8 ≠ '&'.toUInt8 ∧ c.toUInt8 ≠ '='.toUInt8)
    (by decide) (ascii_of_isFormChar inForm) inForm

/-- What stands for itself is no plus sign and no percent sign. -/
theorem of_isKept
    {c : Char}
    (kept : isKept c = true) :
    c.toNat < 0x80 ∧ c.toUInt8 ≠ '+'.toUInt8 ∧ c.toUInt8 ≠ '%'.toUInt8 := by
  have ascii : c.toNat < 0x80 := ascii_of_isFormChar (by simp [isFormChar, kept])
  exact ⟨ascii,
    of_ascii (fun c => isKept c = true → c.toUInt8 ≠ '+'.toUInt8 ∧ c.toUInt8 ≠ '%'.toUInt8)
      (by decide) ascii kept⟩

theorem isFormChar_of_mem_encode
    {text : String}
    {c : Char}
    (member : c ∈ encode text) :
    isFormChar c = true := by
  obtain ⟨source, -, inForm⟩ := List.mem_flatMap.mp member
  unfold encodeChar at inForm
  split at inForm
  · cases List.mem_singleton.mp inForm
    decide
  · unfold Percent.encodeChar at inForm
    split at inForm
    · next kept =>
        cases List.mem_singleton.mp inForm
        simp [isFormChar, kept]
    · obtain ⟨octet, -, inEscape⟩ := List.mem_flatMap.mp inForm
      rcases Percent.mem_encodeOctet inEscape with rfl | alphanumeric
      · decide
      · simp [isFormChar, isKept, alphanumeric]

/-- Escapes have no plus sign. -/
theorem map_plusToSpace_escapes
    (octets : Octets) :
    (Utf8.octetsOf (octets.flatMap Percent.encodeOctet)).map plusToSpace =
      Utf8.octetsOf (octets.flatMap Percent.encodeOctet) := by
  have facts {c : Char} (member : c ∈ octets.flatMap Percent.encodeOctet) :
      c.toNat < 0x80 ∧ c.toUInt8 ≠ '+'.toUInt8 := by
    obtain ⟨octet, -, inEscape⟩ := List.mem_flatMap.mp member
    rcases Percent.mem_encodeOctet inEscape with rfl | alphanumeric
    · decide
    · have kept : isKept c = true := by simp [isKept, alphanumeric]
      exact ⟨(of_isKept kept).1, (of_isKept kept).2.1⟩
  rw [Utf8.octetsOf_of_ascii fun c member => (facts member).1, List.map_map]
  refine List.map_congr_left fun c member => ?_
  rw [Function.comp_apply, plusToSpace, if_neg (facts member).2]

/-- The form of a character is read back, whatever stands behind it. -/
theorem decode_encodeChar
    (c : Char)
    (rest : Octets) :
    Percent.decode ((Utf8.octetsOf (encodeChar c) ++ rest).map plusToSpace) =
      String.utf8EncodeChar c ++ Percent.decode (rest.map plusToSpace) := by
  rw [List.map_append]
  unfold encodeChar
  split
  · next space =>
      subst space
      exact Percent.decode_cons_of_ne (by decide) _
  · unfold Percent.encodeChar
    split
    · next kept =>
        obtain ⟨ascii, noPlus, noSign⟩ := of_isKept kept
        rw [Utf8.utf8EncodeChar_ascii ascii, Utf8.octetsOf_cons_ascii ascii, Utf8.octetsOf_nil,
          List.map_singleton, plusToSpace, if_neg noPlus]
        exact Percent.decode_cons_of_ne noSign _
    · rw [map_plusToSpace_escapes, Percent.decode_encodeOctets]

/-- A name or a value is read back from its form. -/
theorem decode_encode
    (text : String) :
    decode (Utf8.octetsOf (encode text)) = text := by
  have octets (chars : List Char) :
      Percent.decode ((Utf8.octetsOf (chars.flatMap encodeChar)).map plusToSpace) =
        Utf8.octetsOf chars := by
    induction chars with
    | nil => rfl
    | cons c rest inductionHypothesis =>
        rw [List.flatMap_cons, Utf8.octetsOf_append, decode_encodeChar, inductionHypothesis,
          Utf8.octetsOf_cons]
  rw [decode, encode, octets]
  exact Utf8.decodeLossy_encode text

/-! ## Pairs -/

theorem separators_not_mem_encode
    {text : String}
    {octet : UInt8}
    (member : octet ∈ Utf8.octetsOf (encode text)) :
    octet ≠ '&'.toUInt8 ∧ octet ≠ '='.toUInt8 := by
  have inForm {c : Char} (member : c ∈ encode text) := isFormChar_of_mem_encode member
  rw [Utf8.octetsOf_of_ascii fun c member => ascii_of_isFormChar (inForm member)] at member
  obtain ⟨c, isChar, rfl⟩ := List.mem_map.mp member
  exact of_isFormChar (inForm isChar)

theorem octetsOf_encodePair
    (pair : String × String) :
    Utf8.octetsOf (encodePair pair) =
      Utf8.octetsOf (encode pair.1) ++ '='.toUInt8 :: Utf8.octetsOf (encode pair.2) := by
  rw [encodePair, Utf8.octetsOf_append, Utf8.octetsOf_append, List.append_assoc]
  rfl

/-- A pair is read back from its form. -/
theorem decodePairs_encodePair
    (pair : String × String) :
    decodePairs (Utf8.octetsOf (encodePair pair)) = [pair] := by
  have onePiece :
      Pieces.cut (· == '&'.toUInt8) (Utf8.octetsOf (encodePair pair)) =
        [Utf8.octetsOf (encodePair pair)] := by
    refine Pieces.cut_of_absent fun octet member => beq_false_of_ne ?_
    rw [octetsOf_encodePair] at member
    rcases List.mem_append.mp member with inName | behind
    · exact (separators_not_mem_encode inName).1
    · rcases List.mem_cons.mp behind with rfl | inValue
      · decide
      · exact (separators_not_mem_encode inValue).1
  have noSign : ∀ octet ∈ Utf8.octetsOf (encode pair.1), (octet == '='.toUInt8) = false :=
    fun octet member => beq_false_of_ne (separators_not_mem_encode member).2
  have halves := Pieces.cutOnce_append_cons noSign (beq_self_eq_true '='.toUInt8)
    (Utf8.octetsOf (encode pair.2))
  rw [decodePairs, onePiece, octetsOf_encodePair]
  simp [decodePair, halves, decode_encode]

/-- A pair that was added to a query is read back behind the pairs that were there. -/
theorem decodePairs_append
    (query : List Char)
    (pair : String × String) :
    decodePairs (Utf8.octetsOf (append query pair)) =
      decodePairs (Utf8.octetsOf query) ++ [pair] := by
  cases query with
  | nil => exact decodePairs_encodePair pair
  | cons c rest =>
      have added : Utf8.octetsOf (append (c :: rest) pair) =
          Utf8.octetsOf (c :: rest) ++ '&'.toUInt8 :: Utf8.octetsOf (encodePair pair) := by
        rw [append, if_neg (by simp), Utf8.octetsOf_append, Utf8.octetsOf_append,
          List.append_assoc]
        rfl
      rw [added, decodePairs,
        Pieces.cut_append_cons (· == '&'.toUInt8) _ (beq_self_eq_true '&'.toUInt8),
        List.filter_append, List.map_append]
      exact congrArg (_ ++ ·) (decodePairs_encodePair pair)

end Form

end SignalRelay
