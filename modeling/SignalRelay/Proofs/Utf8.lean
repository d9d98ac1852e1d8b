import SignalRelay.Text.Utf8

namespace SignalRelay

/-!
# Decoding what was encoded

The decoder gives back every text from its octets.  So texts with the same octets are the
same, and the order of texts by their octets is a strict total one.
-/

namespace Utf8

/-- The octets of characters, one after another. -/
def octetsOf (chars : List Char) : Octets :=
  chars.flatMap String.utf8EncodeChar

@[simp] theorem octetsOf_nil : octetsOf [] = [] :=
  rfl

@[simp] theorem octetsOf_append
    (first second : List Char) :
    octetsOf (first ++ second) = octetsOf first ++ octetsOf second := by
  simp [octetsOf]

theorem octetsOf_cons
    (c : Char)
    (rest : List Char) :
    octetsOf (c :: rest) = String.utf8EncodeChar c ++ octetsOf rest := by
  simp [octetsOf]

@[simp] theorem encode_ofList
    (chars : List Char) :
    encode (String.ofList chars) = octetsOf chars := by
  simp [encode, octetsOf]

/-- A character of seven bits is one octet. -/
theorem utf8EncodeChar_ascii
    {c : Char}
    (ascii : c.toNat < 0x80) :
    String.utf8EncodeChar c = [c.toUInt8] := by
  have small : c.val.toNat ≤ 0x7F := Nat.le_of_lt_succ ascii
  simp only [String.utf8EncodeChar, small, ↓reduceIte]
  rfl

theorem octetsOf_cons_ascii
    {c : Char}
    (ascii : c.toNat < 0x80)
    (rest : List Char) :
    octetsOf (c :: rest) = c.toUInt8 :: octetsOf rest := by
  rw [octetsOf_cons, utf8EncodeChar_ascii ascii]
  rfl

theorem start_two :
    ∀ bits < 0x20, 2 ≤ bits →
      start (UInt8.ofNat (bits + 0xC0)) = .pending ⟨0, 0x80, 0xBF, bits⟩ := by
  decide

/-- The first octet of three holds four bits, and narrows the second at either end so that
neither a shorter form nor a surrogate can follow. -/
theorem start_three :
    ∀ bits < 0x10,
      start (UInt8.ofNat (bits + 0xE0)) =
        .pending ⟨1, if bits = 0 then 0xA0 else 0x80, if bits = 0x0D then 0x9F else 0xBF,
          bits⟩ := by
  decide

/-- The first octet of four holds three bits, and narrows the second at either end. -/
theorem start_four :
    ∀ bits < 5,
      start (UInt8.ofNat (bits + 0xF0)) =
        .pending ⟨2, if bits = 0 then 0x90 else 0x80, if bits = 4 then 0x8F else 0xBF,
          bits⟩ := by
  decide

/-- A further octet within the limits adds its six bits. -/
theorem resume_within
    {after : Nat}
    {low high : UInt8}
    {bits added : Nat}
    (aboveLow : low.toNat ≤ added + 0x80)
    (belowHigh : added + 0x80 ≤ high.toNat) :
    resume ⟨after, low, high, bits⟩ (UInt8.ofNat (added + 0x80)) =
      match after with
      | 0 => .char (Char.ofNat (bits * 64 + added))
      | after + 1 => .pending ⟨after, 0x80, 0xBF, bits * 64 + added⟩ := by
  have fits : added + 0x80 < 256 := Nat.lt_of_le_of_lt belowHigh high.toNat_lt
  have value : (UInt8.ofNat (added + 0x80)).toNat = added + 0x80 := by
    simpa using Nat.mod_eq_of_lt fits
  have within : low ≤ UInt8.ofNat (added + 0x80) ∧ UInt8.ofNat (added + 0x80) ≤ high := by
    rw [UInt8.le_iff_toNat_le, UInt8.le_iff_toNat_le, value]
    exact ⟨aboveLow, belowHigh⟩
  cases after <;> simp only [resume, within, and_self, ↓reduceIte, value, Nat.add_sub_cancel]

theorem decodeOnto_first
    {read : List Char}
    {rest : Octets}
    {octet : UInt8}
    {pending : Pending}
    (begun : start octet = .pending pending) :
    decodeOnto read none (octet :: rest) = decodeOnto read (some pending) rest := by
  simp only [decodeOnto, advance, begun]

theorem decodeOnto_further
    {read : List Char}
    {rest : Octets}
    {after : Nat}
    {low high : UInt8}
    {bits added : Nat}
    (aboveLow : low.toNat ≤ added + 0x80)
    (belowHigh : added + 0x80 ≤ high.toNat) :
    decodeOnto read (some ⟨after + 1, low, high, bits⟩)
        (UInt8.ofNat (added + 0x80) :: rest) =
      decodeOnto read (some ⟨after, 0x80, 0xBF, bits * 64 + added⟩) rest := by
  simp only [decodeOnto, advance, resume_within aboveLow belowHigh]

theorem decodeOnto_last
    {read : List Char}
    {rest : Octets}
    {low high : UInt8}
    {bits added : Nat}
    (aboveLow : low.toNat ≤ added + 0x80)
    (belowHigh : added + 0x80 ≤ high.toNat) :
    decodeOnto read (some ⟨0, low, high, bits⟩) (UInt8.ofNat (added + 0x80) :: rest) =
      decodeOnto (Char.ofNat (bits * 64 + added) :: read) none rest := by
  simp only [decodeOnto, advance, resume_within aboveLow belowHigh]

/-- Six bits lie within the limits of an octet that only its two leading bits mark. -/
theorem six_bits_within
    {added : Nat}
    (small : added < 0x40) :
    (0x80 : UInt8).toNat ≤ added + 0x80 ∧ added + 0x80 ≤ (0xBF : UInt8).toNat :=
  ⟨Nat.le_add_left _ _, Nat.add_le_add_right (Nat.le_of_lt_succ small) 0x80⟩

theorem decodeOnto_two
    {read : List Char}
    {rest : Octets}
    {bits added : Nat}
    (notShorter : 2 ≤ bits)
    (bitsSmall : bits < 0x20)
    (addedSmall : added < 0x40) :
    decodeOnto read none
        (UInt8.ofNat (bits + 0xC0) :: UInt8.ofNat (added + 0x80) :: rest) =
      decodeOnto (Char.ofNat (bits * 64 + added) :: read) none rest := by
  have last := six_bits_within addedSmall
  rw [decodeOnto_first (start_two bits bitsSmall notShorter),
    decodeOnto_last last.1 last.2]

theorem decodeOnto_three
    {read : List Char}
    {rest : Octets}
    {bits second third : Nat}
    (bitsSmall : bits < 0x10)
    (secondSmall : second < 0x40)
    (thirdSmall : third < 0x40)
    (notShorter : bits = 0 → 0x20 ≤ second)
    (notSurrogate : bits = 0x0D → second < 0x20) :
    decodeOnto read none
        (UInt8.ofNat (bits + 0xE0) :: UInt8.ofNat (second + 0x80) ::
          UInt8.ofNat (third + 0x80) :: rest) =
      decodeOnto (Char.ofNat ((bits * 64 + second) * 64 + third) :: read) none rest := by
  have aboveLow : (if bits = 0 then 0xA0 else 0x80 : UInt8).toNat ≤ second + 0x80 := by
    split
    · next zero => exact Nat.add_le_add_right (notShorter zero) 0x80
    · exact Nat.le_add_left _ _
  have belowHigh : second + 0x80 ≤ (if bits = 0x0D then 0x9F else 0xBF : UInt8).toNat := by
    split
    · next surrogate =>
        exact Nat.add_le_add_right (Nat.le_of_lt_succ (notSurrogate surrogate)) 0x80
    · exact Nat.add_le_add_right (Nat.le_of_lt_succ secondSmall) 0x80
  have last := six_bits_within thirdSmall
  rw [decodeOnto_first (start_three bits bitsSmall),
    decodeOnto_further aboveLow belowHigh, decodeOnto_last last.1 last.2]

theorem decodeOnto_four
    {read : List Char}
    {rest : Octets}
    {bits second third fourth : Nat}
    (bitsSmall : bits < 5)
    (secondSmall : second < 0x40)
    (thirdSmall : third < 0x40)
    (fourthSmall : fourth < 0x40)
    (notShorter : bits = 0 → 0x10 ≤ second)
    (notTooLarge : bits = 4 → second < 0x10) :
    decodeOnto read none
        (UInt8.ofNat (bits + 0xF0) :: UInt8.ofNat (second + 0x80) ::
          UInt8.ofNat (third + 0x80) :: UInt8.ofNat (fourth + 0x80) :: rest) =
      decodeOnto
        (Char.ofNat (((bits * 64 + second) * 64 + third) * 64 + fourth) :: read) none
        rest := by
  have aboveLow : (if bits = 0 then 0x90 else 0x80 : UInt8).toNat ≤ second + 0x80 := by
    split
    · next zero => exact Nat.add_le_add_right (notShorter zero) 0x80
    · exact Nat.le_add_left _ _
  have belowHigh : second + 0x80 ≤ (if bits = 4 then 0x8F else 0xBF : UInt8).toNat := by
    split
    · next last =>
        exact Nat.add_le_add_right (Nat.le_of_lt_succ (notTooLarge last)) 0x80
    · exact Nat.add_le_add_right (Nat.le_of_lt_succ secondSmall) 0x80
  have further := six_bits_within thirdSmall
  have last := six_bits_within fourthSmall
  rw [decodeOnto_first (start_four bits bitsSmall),
    decodeOnto_further aboveLow belowHigh, decodeOnto_further further.1 further.2,
    decodeOnto_last last.1 last.2]

/-- A character is read back from its octets, whatever stands behind them. -/
theorem decodeOnto_utf8EncodeChar
    (read : List Char)
    (c : Char)
    (rest : Octets) :
    decodeOnto read none (String.utf8EncodeChar c ++ rest) =
      decodeOnto (c :: read) none rest := by
  have whole : Char.ofNat c.val.toNat = c := Char.ofNat_toNat c
  have scalar : c.val.toNat < 0xD800 ∨ 0xDFFF < c.val.toNat ∧ c.val.toNat < 0x110000 :=
    c.valid
  simp only [String.utf8EncodeChar]
  -- The encoder splits the value by its size; each form is read back by its own lemma.
  generalize c.val.toNat = value at whole scalar
  subst whole
  split
  · next one =>
      have first : start (UInt8.ofNat value) = .char (Char.ofNat value) := by
        have octet : (UInt8.ofNat value).toNat = value := by
          have fits : value < 256 := Nat.lt_of_le_of_lt one (by decide)
          simpa using Nat.mod_eq_of_lt fits
        have ascii : UInt8.ofNat value < 0x80 := by
          rw [UInt8.lt_iff_toNat_lt, octet]
          exact Nat.lt_succ_of_le one
        rw [start, if_pos ascii, octet]
      simp only [List.cons_append, List.nil_append, decodeOnto, advance, first]
  · next notOne =>
      split
      · next two =>
          have parts : value / 64 % 0x20 * 64 + value % 0x40 = value := by omega
          refine (decodeOnto_two (by omega) (by omega) (by omega)).trans ?_
          rw [parts]
          rfl
      · next notTwo =>
          split
          · next three =>
              have parts :
                  (value / 4096 % 0x10 * 64 + value / 64 % 0x40) * 64 + value % 0x40 =
                    value := by
                omega
              refine (decodeOnto_three (by omega) (by omega) (by omega) (by omega)
                (by omega)).trans ?_
              rw [parts]
              rfl
          · next notThree =>
              have parts :
                  ((value / 262144 % 0x08 * 64 + value / 4096 % 0x40) * 64 +
                      value / 64 % 0x40) * 64 + value % 0x40 =
                    value := by
                omega
              refine (decodeOnto_four (by omega) (by omega) (by omega) (by omega)
                (by omega) (by omega)).trans ?_
              rw [parts]
              rfl

theorem decodeOnto_octetsOf
    (read chars : List Char) :
    decodeOnto read none (octetsOf chars) = some (read.reverse ++ chars) := by
  induction chars generalizing read with
  | nil =>
      simp [decodeOnto]
  | cons c rest inductionHypothesis =>
      rw [octetsOf_cons, decodeOnto_utf8EncodeChar, inductionHypothesis]
      simp

/-- Every text is read back from its octets. -/
theorem decode?_encode
    (text : String) :
    decode? (encode text) = some text := by
  change (decodeOnto [] none (octetsOf text.toList)).map String.ofList = _
  rw [decodeOnto_octetsOf]
  simp

/-- Lossy decoding loses nothing of well-formed octets. -/
theorem decodeLossyOnto_of_decodeOnto
    {read chars : List Char}
    {state : Option Pending}
    {octets : Octets}
    (decoded : decodeOnto read state octets = some chars) :
    decodeLossyOnto read state octets = chars := by
  induction octets generalizing read state with
  | nil =>
      cases state with
      | none =>
          exact Option.some.inj decoded
      | some pending =>
          cases decoded
  | cons octet rest inductionHypothesis =>
      cases state with
      | none =>
          simp only [decodeOnto, advance] at decoded
          rw [decodeLossyOnto]
          split at decoded
          · next c first => simpa only [first] using inductionHypothesis decoded
          · next pending first => simpa only [first] using inductionHypothesis decoded
          · cases decoded
      | some pending =>
          simp only [decodeOnto, advance] at decoded
          rw [decodeLossyOnto]
          split at decoded
          · next c last => simpa only [last] using inductionHypothesis decoded
          · next further more => simpa only [more] using inductionHypothesis decoded
          · cases decoded

theorem decodeLossy_encode
    (text : String) :
    decodeLossy (encode text) = text := by
  have decoded := decodeOnto_octetsOf [] text.toList
  rw [decodeLossy]
  change String.ofList (decodeLossyOnto [] none (octetsOf text.toList)) = text
  rw [decodeLossyOnto_of_decodeOnto decoded]
  simp

/-- Characters of seven bits are one octet each. -/
theorem octetsOf_of_ascii
    {chars : List Char}
    (ascii : ∀ c ∈ chars, c.toNat < 0x80) :
    octetsOf chars = chars.map Char.toUInt8 := by
  induction chars with
  | nil =>
      rfl
  | cons c rest inductionHypothesis =>
      rw [octetsOf_cons_ascii (ascii c List.mem_cons_self),
        inductionHypothesis fun other member => ascii other (List.mem_cons_of_mem _ member)]
      rfl

/-- Texts with the same octets are the same. -/
theorem encode_injective
    {left right : String}
    (same : encode left = encode right) :
    left = right := by
  have decoded : decode? (encode left) = some right := by
    rw [same, decode?_encode]
  rw [decode?_encode] at decoded
  exact Option.some.inj decoded

theorem precedes_irrefl
    (text : String) :
    ¬precedes text text = true := by
  simp only [precedes, decide_eq_true_eq]
  exact List.lex_irrefl (fun octet => UInt8.lt_irrefl octet) _

theorem precedes_trans
    {first second third : String}
    (before : precedes first second = true)
    (after : precedes second third = true) :
    precedes first third = true := by
  simp only [precedes, decide_eq_true_eq] at before after ⊢
  exact List.lex_trans (fun less more => UInt8.lt_trans less more) before after

/-- Of two different texts one precedes the other. -/
theorem precedes_of_not_precedes
    {left right : String}
    (different : left ≠ right)
    (notBefore : ¬precedes left right = true) :
    precedes right left = true := by
  simp only [precedes, decide_eq_true_eq] at notBefore ⊢
  have ordered : encode right ≤ encode left := List.not_lt.mp notBefore
  rcases List.le_iff_lt_or_eq.mp ordered with less | same
  · exact less
  · exact (different (encode_injective same.symm)).elim

end Utf8

end SignalRelay
