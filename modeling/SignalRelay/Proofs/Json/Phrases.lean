import SignalRelay.Proofs.Json.Grammar

namespace SignalRelay

/-!
# Phrases read

The readers of blanks and strings take every phrase for what it means, and leave what follows it.
-/

namespace Grammar

open Json Lexeme Utf8

/-! ## Blanks -/

/-- There need not be any blanks. -/
theorem Blanks.refl
    (octets : Octets) :
    Blanks octets octets :=
  ⟨[], fun _ member => absurd member List.not_mem_nil, rfl⟩

theorem Blanks.cons
    {octet : UInt8}
    {octets rest : Octets}
    (blank : octet ∈ octetsOf [' ', '\t', '\n', '\r'])
    (blanks : Blanks octets rest) :
    Blanks (octet :: octets) rest := by
  obtain ⟨later, allBlank, rfl⟩ := blanks
  exact ⟨octet :: later, List.forall_mem_cons.mpr ⟨blank, allBlank⟩, rfl⟩

theorem isBlank_of_mem
    {octet : UInt8}
    (blank : octet ∈ octetsOf [' ', '\t', '\n', '\r']) :
    isBlank octet = true := by
  have known : (octetsOf [' ', '\t', '\n', '\r']).all isBlank = true := by decide
  exact List.all_eq_true.mp known octet blank

/-- Blanks are skipped. -/
theorem Blanks.skipped
    {octets rest : Octets}
    (blanks : Blanks octets rest) :
    skipBlanks octets = skipBlanks rest := by
  obtain ⟨blank, allBlank, rfl⟩ := blanks
  exact List.dropWhile_append_of_pos fun octet member => isBlank_of_mem (allBlank octet member)

/-- What ends a number still does so behind blanks. -/
theorem Blanks.endsNumber
    {octets rest : Octets}
    (blanks : Blanks octets rest)
    (ends : EndsNumber rest) :
    EndsNumber octets := by
  obtain ⟨blank, allBlank, rfl⟩ := blanks
  cases blank with
  | nil =>
      exact ends
  | cons octet later =>
      have blank := isBlank_of_mem (allBlank octet List.mem_cons_self)
      simp only [isBlank, Bool.or_eq_true, beq_iff_eq] at blank
      rcases blank with ((rfl | rfl) | rfl) | rfl <;> exact ⟨rfl, by decide, rfl⟩

theorem Blanks.length_le
    {octets rest : Octets}
    (blanks : Blanks octets rest) :
    rest.length ≤ octets.length := by
  obtain ⟨blank, -, rfl⟩ := blanks
  simp

/-! ## Characters -/

theorem HexDigit.read
    {value : Nat}
    {digit : Char}
    (hex : HexDigit value digit) :
    hexValue? digit.toUInt8 = some value ∧ digit.toNat < 0x80 := by
  have lower :
      ∀ value : Fin 16,
        hexValue? ("0123456789abcdef".toList[value]).toUInt8 = some value.val ∧
          ("0123456789abcdef".toList[value]).toNat < 0x80 := by
    decide
  have upper :
      ∀ value : Fin 16,
        hexValue? ("0123456789ABCDEF".toList[value]).toUInt8 = some value.val ∧
          ("0123456789ABCDEF".toList[value]).toNat < 0x80 := by
    decide
  rcases hex with found | found
  · obtain ⟨inside, rfl⟩ := List.getElem?_eq_some_iff.mp found
    exact lower ⟨value, inside⟩
  · obtain ⟨inside, rfl⟩ := List.getElem?_eq_some_iff.mp found
    exact upper ⟨value, inside⟩

/-- A code unit is read behind its letter. -/
theorem CodeUnit.read
    {unit : Nat}
    {octets rest : Octets}
    (written : CodeUnit unit octets rest) :
    ∃ digits,
      octets = '\\'.toUInt8 :: 'u'.toUInt8 :: digits ∧
        digits.length = rest.length + 4 ∧
        readHexFour digits = .ok (unit, rest) := by
  obtain ⟨a, b, c, d, first, second, third, fourth, hexA, hexB, hexC, hexD, rfl, rfl⟩ :=
    written
  obtain ⟨readA, asciiA⟩ := hexA.read
  obtain ⟨readB, asciiB⟩ := hexB.read
  obtain ⟨readC, asciiC⟩ := hexC.read
  obtain ⟨readD, asciiD⟩ := hexD.read
  rw [octetsOf_cons_ascii (by decide), octetsOf_cons_ascii (by decide),
    octetsOf_cons_ascii asciiA, octetsOf_cons_ascii asciiB, octetsOf_cons_ascii asciiC,
    octetsOf_cons_ascii asciiD]
  refine ⟨_, rfl, rfl, ?_⟩
  simp only [List.append_eq, List.cons_append, readHexFour, readA, readB, readC, readD,
    octetsOf_nil, List.nil_append]

theorem CodeUnit.length_le
    {unit : Nat}
    {octets rest : Octets}
    (written : CodeUnit unit octets rest) :
    rest.length ≤ octets.length := by
  obtain ⟨digits, rfl, length, -⟩ := written.read
  simp only [List.length_cons]
  omega

/-- A character that is written as one code unit is read behind the letter. -/
theorem readUnicodeEscape_unit
    {c : Char}
    {digits rest : Octets}
    (read : readHexFour digits = .ok (c.toNat, rest)) :
    readUnicodeEscape digits = .ok (String.utf8EncodeChar c, rest) := by
  -- No character is a surrogate.
  have valid : c.toNat < 0xD800 ∨ 0xDFFF < c.toNat := by
    rcases c.valid with below | ⟨above, -⟩
    · exact .inl below
    · exact .inr above
  have notLow : isLowSurrogate c.toNat = false := by
    simp only [isLowSurrogate, Bool.and_eq_false_iff, decide_eq_false_iff_not]
    omega
  have notHigh : isHighSurrogate c.toNat = false := by
    simp only [isHighSurrogate, Bool.and_eq_false_iff, decide_eq_false_iff_not]
    omega
  simp only [readUnicodeEscape, read, notLow, notHigh, Bool.false_eq_true, ↓reduceIte,
    Char.ofNat_toNat]

/-- A character that is written as two code units is read behind the first letter. -/
theorem readUnicodeEscape_pair
    {c : Char}
    {high low : Nat}
    {digits between rest : Octets}
    (read : readHexFour digits = .ok (high, between))
    (lowUnit : CodeUnit low between rest)
    (isHigh : 0xD800 ≤ high ∧ high ≤ 0xDBFF)
    (isLow : 0xDC00 ≤ low ∧ low ≤ 0xDFFF)
    (code : c.toNat = (high - 0xD800) * 0x400 + (low - 0xDC00) + 0x10000) :
    readUnicodeEscape digits = .ok (String.utf8EncodeChar c, rest) := by
  obtain ⟨lowDigits, rfl, -, lowRead⟩ := lowUnit.read
  have notLow : isLowSurrogate high = false := by
    simp only [isLowSurrogate, Bool.and_eq_false_iff, decide_eq_false_iff_not]
    omega
  have highHere : isHighSurrogate high = true := by
    simpa [isHighSurrogate] using isHigh
  have lowHere : isLowSurrogate low = true := by
    simpa [isLowSurrogate] using isLow
  simp only [readUnicodeEscape, read, notLow, highHere, Bool.false_eq_true, ↓reduceIte,
    readLowSurrogate, lowRead, lowHere, ne_eq, not_true_eq_false, ← code, Char.ofNat_toNat]

/-- An escape takes one round. -/
theorem readContent_of_readEscape
    {tail piece rest : Octets}
    (read : readEscape tail = .ok (piece, rest))
    (bound : Nat)
    (content : Octets) :
    readContent (bound + 1) content ('\\'.toUInt8 :: tail) =
      readContent bound (piece.reverse ++ content) rest := by
  have notQuote : '\\'.toUInt8 ≠ '"'.toUInt8 := by decide
  simp only [readContent, notQuote, ↓reduceIte, read]

/-- A letter behind a backslash is read as what it stands for. -/
theorem readEscape_short
    {letter c : Char}
    (listed : (letter, c) ∈ shortEscapes)
    (rest : Octets) :
    ∃ tail,
      octetsOf ['\\', letter] ++ rest = '\\'.toUInt8 :: tail ∧
        tail.length = rest.length + 1 ∧
        readEscape tail = .ok (String.utf8EncodeChar c, rest) := by
  simp only [shortEscapes, List.mem_cons, Prod.mk.injEq, List.not_mem_nil, or_false] at listed
  rcases listed with ⟨rfl, rfl⟩ | ⟨rfl, rfl⟩ | ⟨rfl, rfl⟩ | ⟨rfl, rfl⟩ | ⟨rfl, rfl⟩ |
      ⟨rfl, rfl⟩ | ⟨rfl, rfl⟩ | ⟨rfl, rfl⟩ <;>
    exact ⟨_, rfl, rfl, rfl⟩

/-- The letter of a code unit leads to its digits. -/
theorem readEscape_unicode
    (digits : Octets) :
    readEscape ('u'.toUInt8 :: digits) = readUnicodeEscape digits := by
  have unnamed : escapedOctet? 'u'.toUInt8 = none := by decide
  simp only [readEscape, unnamed, ↓reduceIte]

/-- One character is read, and enough rounds are left for the octets that are left. -/
theorem Character.read
    {c : Char}
    {octets rest : Octets}
    (written : Character c octets rest)
    {bound : Nat}
    (enough : octets.length ≤ bound)
    (content : Octets) :
    ∃ left, rest.length ≤ left ∧
      readContent bound content octets =
        readContent left ((String.utf8EncodeChar c).reverse ++ content) rest := by
  have escaped {tail : Octets}
      (behind : octets = '\\'.toUInt8 :: tail)
      (shorter : rest.length ≤ tail.length)
      (read : readEscape tail = .ok (String.utf8EncodeChar c, rest)) :
      ∃ left, rest.length ≤ left ∧
        readContent bound content octets =
          readContent left ((String.utf8EncodeChar c).reverse ++ content) rest := by
    rw [behind] at enough ⊢
    obtain ⟨left, rfl, leftEnough⟩ := exists_fewer enough
    exact ⟨left, Nat.le_trans shorter leftEnough, readContent_of_readEscape read left content⟩
  cases written with
  | plain notQuote notBackslash notControl =>
      rw [List.length_append] at enough
      exact ⟨bound - (String.utf8EncodeChar c).length, by omega,
        readContent_plain (isPlain_of_unescaped notQuote notBackslash notControl) (by omega)
          content rest⟩
  | short listed =>
      obtain ⟨tail, behind, length, read⟩ := readEscape_short listed rest
      exact escaped behind (by omega) read
  | unit unit =>
      obtain ⟨digits, rfl, length, read⟩ := unit.read
      exact escaped rfl (by simp only [List.length_cons]; omega)
        ((readEscape_unicode digits).trans (readUnicodeEscape_unit read))
  | pair highUnit lowUnit isHigh isLow code =>
      obtain ⟨digits, rfl, length, read⟩ := highUnit.read
      have shorter := lowUnit.length_le
      exact escaped rfl (by simp only [List.length_cons]; omega)
        ((readEscape_unicode digits).trans
          (readUnicodeEscape_pair read lowUnit isHigh isLow code))

/-- Characters are read up to the closing quote. -/
theorem Characters.read
    {chars : List Char}
    {octets rest : Octets}
    (written : Characters chars octets rest)
    {bound : Nat}
    (enough : octets.length ≤ bound)
    (content : Octets) :
    readContent bound content octets = .ok (content.reverse ++ octetsOf chars, rest) := by
  induction chars generalizing octets bound content with
  | nil =>
      cases written
      obtain ⟨bound, rfl, -⟩ := exists_fewer enough
      simp [readContent]
  | cons c later inductionHypothesis =>
      obtain ⟨between, first, others⟩ := written
      obtain ⟨left, leftEnough, read⟩ := first.read enough content
      rw [read, inductionHypothesis others leftEnough, octetsOf_cons]
      simp

/-- A string is read behind its opening quote. -/
theorem Characters.readText
    {text : String}
    {octets rest : Octets}
    (written : Characters text.toList octets rest)
    {bound : Nat}
    (enough : octets.length ≤ bound) :
    Lexeme.readText bound octets = .ok (text, rest) := by
  have decoded : decode? (octetsOf text.toList) = some text := decode?_encode text
  simp only [Lexeme.readText, written.read enough, List.reverse_nil, List.nil_append, decoded]

/-! ## Lengths -/

theorem Character.length_le
    {c : Char}
    {octets rest : Octets}
    (written : Character c octets rest) :
    rest.length ≤ octets.length := by
  cases written with
  | plain => simp
  | short => simp
  | unit unit => exact unit.length_le
  | pair highUnit lowUnit => exact Nat.le_trans lowUnit.length_le highUnit.length_le

theorem Characters.length_lt
    {chars : List Char}
    {octets rest : Octets}
    (written : Characters chars octets rest) :
    rest.length < octets.length := by
  induction chars generalizing octets with
  | nil =>
      cases written
      exact Nat.lt_succ_self _
  | cons c later inductionHypothesis =>
      obtain ⟨between, first, others⟩ := written
      exact Nat.lt_of_lt_of_le (inductionHypothesis others) first.length_le

end Grammar

end SignalRelay
