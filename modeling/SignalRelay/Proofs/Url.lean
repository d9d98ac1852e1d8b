import Mathlib.Data.List.TakeWhile
import SignalRelay.Proofs.Utf8
import SignalRelay.Url.Basic

namespace SignalRelay

/-!
# Plain URLs

A URL with a name of small letters as its host and with a path of plain characters stands for
itself.  Reading it encodes nothing, resolves nothing and leaves nothing out but a port that is
the usual one.  There is one lemma for each part of a URL that is read.
-/

/-! ## Cutting -/

namespace Pieces

variable {α : Type} {isSeparator : α → Bool} {list : List α}

theorem cut_eq_splitOnP
    (isSeparator : α → Bool)
    (list : List α) :
    cut isSeparator list = list.splitOnP isSeparator := by
  induction list with
  | nil => rfl
  | cons a rest inductionHypothesis =>
      rw [cut, inductionHypothesis, List.splitOnP_cons_eq_if_modifyHead]
      split
      · rfl
      · obtain ⟨piece, pieces, found⟩ :=
          List.exists_cons_of_ne_nil (List.splitOnP_ne_nil isSeparator rest)
        rw [found]
        rfl

/-- Where two tests agree, they cut at the same places. -/
theorem cut_congr
    {other : α → Bool}
    (agree : ∀ a ∈ list, isSeparator a = other a) :
    cut isSeparator list = cut other list := by
  induction list with
  | nil => rfl
  | cons a rest inductionHypothesis =>
      rw [cut, cut, agree a List.mem_cons_self,
        inductionHypothesis fun b member => agree b (List.mem_cons_of_mem _ member)]

/-- A piece is made of what is no separator. -/
theorem of_mem_splitOnP
    {piece : List α}
    (member : piece ∈ list.splitOnP isSeparator) :
    ∀ a ∈ piece, a ∈ list ∧ isSeparator a = false := by
  induction list generalizing piece with
  | nil =>
      cases List.mem_singleton.mp member
      exact fun _ => (nomatch ·)
  | cons a rest inductionHypothesis =>
      have later {piece : List α} (member : piece ∈ rest.splitOnP isSeparator) :
          ∀ b ∈ piece, b ∈ a :: rest ∧ isSeparator b = false := by
        intro b inside
        obtain ⟨inRest, noSeparator⟩ := inductionHypothesis member b inside
        exact ⟨List.mem_cons_of_mem _ inRest, noSeparator⟩
      rw [List.splitOnP_cons_eq_if_modifyHead] at member
      split at member
      · rcases List.mem_cons.mp member with rfl | inRest
        · exact fun _ => (nomatch ·)
        · exact later inRest
      · next noSeparator =>
          obtain ⟨first, pieces, found⟩ :=
            List.exists_cons_of_ne_nil (List.splitOnP_ne_nil isSeparator rest)
          rw [found, List.modifyHead_cons] at member
          rcases List.mem_cons.mp member with rfl | inRest
          · intro b inside
            rcases List.mem_cons.mp inside with rfl | inFirst
            · exact ⟨List.mem_cons_self, Bool.eq_false_iff.mpr noSeparator⟩
            · exact later (found ▸ List.mem_cons_self) b inFirst
          · exact later (found ▸ List.mem_cons_of_mem _ inRest)

/-- Pieces with the separator in front of each are the list with one in front. -/
theorem flatMap_cons_splitOn
    [BEq α]
    [LawfulBEq α]
    (a : α)
    (list : List α) :
    (list.splitOn a).flatMap (a :: ·) = a :: list := by
  have joined (pieces : List (List α)) (nonempty : pieces ≠ []) :
      pieces.flatMap (a :: ·) = a :: [a].intercalate pieces := by
    induction pieces with
    | nil => exact (nonempty rfl).elim
    | cons piece rest inductionHypothesis =>
        cases rest with
        | nil => simp
        | cons next rest =>
            rw [List.flatMap_cons, inductionHypothesis (List.cons_ne_nil _ _)]
            simp [List.intercalate]
  rw [joined _ (List.splitOn_ne_nil a list), List.intercalate_splitOn]

theorem cutOnce_of_absent
    (absent : ∀ a ∈ list, isSeparator a = false) :
    cutOnce isSeparator list = (list, none) := by
  have all : ∀ a ∈ list, (!isSeparator a) = true := by simpa using absent
  simp [cutOnce, List.takeWhile_eq_self_iff.mpr all, List.dropWhile_eq_nil_iff.mpr all]

theorem cutLast_of_absent
    (absent : ∀ a ∈ list, isSeparator a = false) :
    cutLast isSeparator list = (none, list) := by
  have reversed : ∀ a ∈ list.reverse, isSeparator a = false :=
    fun a member => absent a (List.mem_reverse.mp member)
  simp [cutLast, cutOnce_of_absent reversed]

end Pieces

/-! ## Percent-encoding -/

namespace Percent

theorem encode_of_kept
    {keep : Char → Bool}
    {chars : List Char}
    (kept : ∀ c ∈ chars, keep c = true) :
    encode keep chars = chars := by
  induction chars with
  | nil => rfl
  | cons c rest inductionHypothesis =>
      rw [encode, List.flatMap_cons, encodeChar, if_pos (kept c List.mem_cons_self)]
      exact congrArg (c :: ·)
        (inductionHypothesis fun d member => kept d (List.mem_cons_of_mem _ member))

/-- Where there is no percent sign there are no escapes. -/
theorem decode_of_absent
    {octets : Octets}
    (absent : '%'.toUInt8 ∉ octets) :
    decode octets = octets := by
  fun_induction decode octets with
  | case1 | case2 | case3 => rfl
  | case4 => exact (absent List.mem_cons_self).elim
  | case5 => exact (absent List.mem_cons_self).elim
  | case6 a b c rest other inductionHypothesis =>
      rw [inductionHypothesis fun member => absent (List.mem_cons_of_mem _ member)]

end Percent

/-! ## Plain characters -/

/-- A host name: labels of small letters with dots between them. -/
def PlainHost (host : List Char) : Prop :=
  ∀ label ∈ host.splitOn '.', label ≠ [] ∧ ∀ c ∈ label, c.isLower = true

instance : DecidablePred PlainHost := fun host =>
  decidable_of_iff
    ((host.splitOn '.').all (fun label => !label.isEmpty && label.all (·.isLower)) = true)
    (by simp [PlainHost])

/-- Whether a character may stand in a plain path. -/
def isPlain (c : Char) : Bool :=
  c.isAlphanum || ['-', '_', '~', '.', '/'].contains c

/-- The characters that mean something to whoever reads a URL, but for slashes and dots. -/
def marks : List Char := ['\t', '\n', '\r', '#', '%', ':', '?', '@', '[', '\\', ']']

/-- There are few enough ASCII characters to try them all. -/
theorem of_ascii
    (holds : Char → Prop)
    (tried : ∀ code < 0x80, holds (Char.ofNat code))
    {c : Char}
    (ascii : c.toNat < 0x80) :
    holds c := by
  have held := tried c.toNat ascii
  rwa [Char.ofNat_toNat] at held

theorem ascii_of_within
    {c : Char}
    {least most : UInt32}
    (within : (c.val ≥ least && c.val ≤ most) = true)
    (small : most.toNat < 0x80) :
    c.toNat < 0x80 :=
  Nat.lt_of_le_of_lt (of_decide_eq_true (Bool.and_eq_true_iff.mp within).2) small

/-- A plain character is not encoded in a path and does not end it. -/
theorem of_isPlain
    {c : Char}
    (plain : isPlain c = true) :
    UrlPath.isKept c = true ∧ c ∉ marks := by
  have ascii : c.toNat < 0x80 := by
    simp only [isPlain, Char.isAlphanum, Bool.or_eq_true, List.contains_iff_mem] at plain
    rcases plain with (letter | digit) | mark
    · rcases Bool.or_eq_true_iff.mp letter with upper | lower
      · have within : 'A'.val ≤ c.val ∧ c.val ≤ 'Z'.val := of_decide_eq_true upper
        exact Nat.lt_of_le_of_lt within.2 (by decide)
      · exact ascii_of_within lower (by decide)
    · exact ascii_of_within digit (by decide)
    · have marksAscii : ['-', '_', '~', '.', '/'].all (·.toNat < 0x80) = true := by decide
      exact of_decide_eq_true (List.all_eq_true.mp marksAscii c mark)
  exact of_ascii (fun c => isPlain c = true → UrlPath.isKept c = true ∧ c ∉ marks) (by decide)
    ascii plain

/-- A small letter is nothing but a letter to whoever reads a host. -/
theorem of_isLower
    {c : Char}
    (lower : c.isLower = true) :
    c.toNat < 0x80 ∧
      c ∉ '-' :: '/' :: '.' :: marks ∧
      c.toLower = c ∧
      Host.isForbidden c = false ∧
      AddressReader.isDigit 10 c = false ∧
      Direction.ofChar c = .leftToRight := by
  have ascii : c.toNat < 0x80 := ascii_of_within lower (by decide)
  have held :=
    of_ascii
      (fun c =>
        c.isLower = true →
        c ∉ '-' :: '/' :: '.' :: marks ∧
          c.toLower = c ∧
          Host.isForbidden c = false ∧
          AddressReader.isDigit 10 c = false ∧
          Direction.ofChar c = .leftToRight)
      (by decide) ascii
  exact ⟨ascii, held lower⟩

/-! ## Paths -/

namespace UrlPath

theorem plainDots_of_absent
    {segment : List Char}
    (absent : '%' ∉ segment) :
    plainDots segment = segment := by
  fun_induction plainDots segment with
  | case1 | case2 => exact (absent List.mem_cons_self).elim
  | case3 c rest _ _ inductionHypothesis =>
      rw [inductionHypothesis fun member => absent (List.mem_cons_of_mem _ member)]
  | case4 => rfl

/-- Without segments of dots there is nothing to resolve. -/
theorem resolve_of_plain
    {segments : List (List Char)}
    (plain : ∀ segment ∈ segments, isHere segment = false ∧ isBack segment = false)
    (before : List (List Char)) :
    resolve before segments = segments.reverse ++ before := by
  induction segments generalizing before with
  | nil => rfl
  | cons segment rest inductionHypothesis =>
      obtain ⟨notHere, notBack⟩ := plain segment List.mem_cons_self
      have later := inductionHypothesis fun other member =>
        plain other (List.mem_cons_of_mem _ member)
      cases rest with
      | nil => simp [resolve, notHere, notBack]
      | cons next rest => simp [resolve, notHere, notBack, later]

/-- A path of plain characters without segments of dots stands for itself. -/
theorem ofChars_of_plain
    {path : List Char}
    (plain : ∀ c ∈ path, isPlain c = true)
    (noHere : ['.'] ∉ path.splitOn '/')
    (noBack : ['.', '.'] ∉ path.splitOn '/') :
    ofChars ('/' :: path) = '/' :: path := by
  have noMark {c : Char} (member : c ∈ path) : c ∉ marks :=
    (of_isPlain (plain c member)).2
  have segments : Pieces.cut isSlash path = path.splitOn '/' := by
    rw [List.splitOn_eq_splitOnP, ← Pieces.cut_eq_splitOnP]
    refine Pieces.cut_congr fun c member => ?_
    have noBackslash : c ≠ '\\' := by
      rintro rfl
      exact noMark member (by decide)
    simp [isSlash, noBackslash]
  have within {segment : List Char} (member : segment ∈ path.splitOn '/') :
      ∀ c ∈ segment, c ∈ path :=
    fun c inside => (Pieces.of_mem_splitOnP member c inside).1
  have encoded : (path.splitOn '/').map (Percent.encode isKept) = path.splitOn '/' := by
    refine (List.map_congr_left fun segment member => ?_).trans (List.map_id _)
    exact Percent.encode_of_kept fun c inside =>
      (of_isPlain (plain c (within member c inside))).1
  have dotless :
      ∀ segment ∈ path.splitOn '/', isHere segment = false ∧ isBack segment = false := by
    intro segment member
    have noEscape : '%' ∉ segment :=
      fun inside => noMark (within member '%' inside) (by decide)
    rw [isHere, isBack, plainDots_of_absent noEscape]
    exact ⟨beq_false_of_ne fun same => noHere (same ▸ member),
      beq_false_of_ne fun same => noBack (same ▸ member)⟩
  change (resolve [] ((Pieces.cut isSlash path).map (Percent.encode isKept))).reverse.flatMap
    ('/' :: ·) = _
  rw [segments, encoded, resolve_of_plain dotless, List.append_nil, List.reverse_reverse,
    Pieces.flatMap_cons_splitOn]

end UrlPath

/-! ## Hosts -/

/-- The characters of a plain host are small letters and dots. -/
theorem PlainHost.of_mem
    {host : List Char}
    (plain : PlainHost host)
    {c : Char}
    (member : c ∈ host) :
    c = '.' ∨ c.isLower = true := by
  have inside : c ∈ (host.splitOn '.').flatMap ('.' :: ·) := by
    rw [Pieces.flatMap_cons_splitOn]
    exact List.mem_cons_of_mem _ member
  obtain ⟨label, isLabel, inLabel⟩ := List.mem_flatMap.mp inside
  rcases List.mem_cons.mp inLabel with dot | letter
  · exact .inl dot
  · exact .inr ((plain label isLabel).2 c letter)

theorem PlainHost.facts
    {host : List Char}
    (plain : PlainHost host)
    {c : Char}
    (member : c ∈ host) :
    c.toNat < 0x80 ∧ c ∉ '/' :: marks ∧ c.toLower = c ∧ Host.isForbidden c = false := by
  rcases plain.of_mem member with rfl | lower
  · decide
  · obtain ⟨ascii, noMark, same, allowed, -⟩ := of_isLower lower
    simp only [List.mem_cons, not_or] at noMark ⊢
    exact ⟨ascii, ⟨noMark.2.1, noMark.2.2.2⟩, same, allowed⟩

theorem PlainHost.exists_cons
    {host : List Char}
    (plain : PlainHost host) :
    ∃ first rest, host = first :: rest ∧ first.isLower = true := by
  cases host with
  | nil => exact ((plain [] List.mem_cons_self).1 rfl).elim
  | cons first rest =>
      refine ⟨first, rest, rfl, (plain.of_mem List.mem_cons_self).resolve_left ?_⟩
      rintro rfl
      exact (plain [] (by simp [List.splitOn_cons_eq_if_modifyHead])).1 rfl

namespace Label

/-- A label of small letters stands for itself. -/
theorem decode?_of_lower
    {label : List Char}
    (lower : ∀ c ∈ label, c.isLower = true) :
    decode? label = some label := by
  have leadless : ¬lead.isPrefixOf label = true := by
    intro leads
    obtain ⟨rest, rfl⟩ := List.isPrefixOf_iff_prefix.mp leads
    exact absurd (lower '-' (by simp [lead])) (by decide)
  rw [decode?, if_neg leadless]

theorem areProper_of_plain
    {host : List Char}
    (plain : PlainHost host) :
    areProper host = true := by
  have decoded (labels : List (List Char))
      (lower : ∀ label ∈ labels, ∀ c ∈ label, c.isLower = true) :
      labels.mapM decode? = some labels := by
    induction labels with
    | nil => rfl
    | cons label rest inductionHypothesis =>
        rw [List.mapM_cons, decode?_of_lower (lower label List.mem_cons_self),
          inductionHypothesis fun other member => lower other (List.mem_cons_of_mem _ member)]
        rfl
  have lower (label : List Char) (member : label ∈ host.splitOn '.') :=
    (plain label member).2
  rw [areProper, Pieces.cut_eq_splitOnP, ← List.splitOn_eq_splitOnP, decoded _ lower,
    Option.any_some]
  have oneWay :
      (((host.splitOn '.').map (·.map Direction.ofChar)).any (·.any Direction.isReversing)) =
        false := by
    rw [List.any_eq_false]
    intro directions member
    obtain ⟨label, isLabel, rfl⟩ := List.mem_map.mp member
    rw [Bool.not_eq_true, List.any_eq_false]
    intro direction inside
    obtain ⟨c, inLabel, rfl⟩ := List.mem_map.mp inside
    obtain ⟨-, -, -, -, -, fromLeft⟩ := of_isLower (lower label isLabel c inLabel)
    rw [fromLeft]
    decide
  simp only [directionsFit, oneWay, Bool.not_false, Bool.true_or]

end Label

namespace Host

/-- A name whose labels are made of small letters is no number. -/
theorem endsInNumber_of_plain
    {host : List Char}
    (plain : PlainHost host) :
    endsInNumber host = false := by
  have pieces : Pieces.cut (· == '.') host = host.splitOn '.' :=
    Pieces.cut_eq_splitOnP ..
  have noneEmpty : (host.splitOn '.').getLast? ≠ some [] :=
    fun last => (plain [] (List.mem_of_getLast? last)).1 rfl
  have same : labels host = host.splitOn '.' := by
    simp [labels, pieces, noneEmpty]
  rw [endsInNumber, same]
  cases last : (host.splitOn '.').getLast? with
  | none => rfl
  | some label =>
      obtain ⟨nonempty, lower⟩ := plain label (List.mem_of_getLast? last)
      cases label with
      | nil => exact (nonempty rfl).elim
      | cons first rest =>
          have noDigit := (of_isLower (lower first List.mem_cons_self)).2.2.2.2.1
          have notZero : first ≠ '0' := by
            rintro rfl
            cases lower '0' List.mem_cons_self
          simp [partOf?, notZero, noDigit]

theorem percent_not_mem_octetsOf
    {chars : List Char}
    (ascii : ∀ c ∈ chars, c.toNat < 0x80)
    (absent : '%' ∉ chars) :
    '%'.toUInt8 ∉ Utf8.octetsOf chars := by
  induction chars with
  | nil => exact List.not_mem_nil
  | cons c rest inductionHypothesis =>
      rw [Utf8.octetsOf_cons_ascii (ascii c List.mem_cons_self), List.mem_cons, not_or]
      constructor
      · intro same
        have sign := of_ascii (fun c => '%'.toUInt8 = c.toUInt8 → c = '%') (by decide)
          (ascii c List.mem_cons_self) same
        exact absent (sign ▸ List.mem_cons_self)
      · exact inductionHypothesis (fun d member => ascii d (List.mem_cons_of_mem _ member))
          fun member => absent (List.mem_cons_of_mem _ member)

theorem nameOf?_of_plain
    (names : NameMapping)
    {host : List Char}
    (plain : PlainHost host) :
    nameOf? names (Percent.decode (Utf8.encode (String.ofList host))) = some host := by
  have noEscape : '%' ∉ host :=
    fun member => (plain.facts member).2.1 (by decide)
  have octets : Percent.decode (Utf8.encode (String.ofList host)) =
      Utf8.encode (String.ofList host) := by
    refine Percent.decode_of_absent ?_
    rw [Utf8.encode_ofList]
    exact percent_not_mem_octetsOf (fun c member => (plain.facts member).1) noEscape
  have lower : host.map Char.toLower = host :=
    (List.map_congr_left fun c member => (plain.facts member).2.2.1).trans (List.map_id _)
  have ascii : host.all (fun c => c.toNat < 0x80) = true := by
    rw [List.all_eq_true]
    exact fun c member => decide_eq_true (plain.facts member).1
  have allowed : host.all (fun c => !isForbidden c) = true := by
    rw [List.all_eq_true]
    intro c member
    simp [(plain.facts member).2.2.2]
  rw [octets, nameOf?, Utf8.decode?_encode, Option.bind_some, String.toList_ofList, if_pos ascii,
    lower]
  simp only [allowed, Label.areProper_of_plain plain, Bool.and_self, ↓reduceIte]

/-- A name of small letters is a host as it stands. -/
theorem ofChars_of_plain
    (names : NameMapping)
    {host : List Char}
    (plain : PlainHost host) :
    ofChars names host = .ok (.domain (String.ofList host)) := by
  obtain ⟨first, rest, begins, lower⟩ := plain.exists_cons
  obtain ⟨-, noMark, -⟩ := of_isLower lower
  unfold ofChars
  split
  · cases begins
  · cases begins
    exact (noMark (by decide)).elim
  · rw [nameOf?_of_plain names plain, begins]
    simp only [← begins, endsInNumber_of_plain plain, Bool.false_eq_true, ↓reduceIte]

end Host

/-! ## Ports -/

namespace SocketUrl

theorem cutPort_of_absent
    {host : List Char}
    (absent : ∀ c ∈ host, c ∉ [':', '[', ']'])
    (port : List Char) :
    cutPort false (host ++ ':' :: port) = (host, some port) := by
  induction host with
  | nil => rfl
  | cons c rest inductionHypothesis =>
      have noMark := absent c List.mem_cons_self
      simp only [List.mem_cons, List.not_mem_nil, or_false, not_or] at noMark
      have later := inductionHypothesis fun d member => absent d (List.mem_cons_of_mem _ member)
      simp [cutPort, noMark, later]

/-- A digit is nothing but a digit to whoever reads a port. -/
theorem digits_of_isDigit
    {c : Char}
    (digit : c.isDigit = true) :
    AddressReader.isDigit 10 c = true ∧
      (AddressReader.digitValue? 10 c).getD 0 = c.toNat - '0'.toNat ∧
      !isSkipped c ∧ !endsAuthority c ∧ c ≠ '@' := by
  have ascii : c.toNat < 0x80 := ascii_of_within digit (by decide)
  have held :=
    of_ascii
      (fun c =>
        c.isDigit = true →
        AddressReader.isDigit 10 c = true ∧
          (AddressReader.digitValue? 10 c).getD 0 = c.toNat - '0'.toNat ∧
          !isSkipped c ∧ !endsAuthority c ∧ c ≠ '@')
      (by decide) ascii
  exact held digit

/-- A number is read back from its digits. -/
theorem digitsValue_toDigits
    (value : Nat) :
    AddressReader.digitsValue 10 (Nat.toDigits 10 value) = value := by
  have digits (chars : List Char) (all : ∀ c ∈ chars, c.isDigit = true) (first : Nat) :
      chars.foldl
          (fun value c => value * 10 + (AddressReader.digitValue? 10 c).getD 0) first =
        Nat.ofDigitChars 10 chars first := by
    induction chars generalizing first with
    | nil => rfl
    | cons c rest inductionHypothesis =>
        rw [List.foldl_cons, (digits_of_isDigit (all c List.mem_cons_self)).2.1,
          inductionHypothesis fun d member => all d (List.mem_cons_of_mem _ member),
          Nat.mul_comm]
        rfl
  refine (digits _ (fun c member => ?_) 0).trans
    (Nat.ofDigitChars_toDigits (by decide) (by decide))
  exact Nat.isDigit_of_mem_toDigits (by decide) (by decide) member

/-- A port is read back from its digits, unless it is the usual one. -/
theorem portOf_toDigits
    (secure : Bool)
    (port : UInt16) :
    portOf secure (Nat.toDigits 10 port.toNat) =
      .ok (if port = usualPort secure then none else some port) := by
  have nonempty : (Nat.toDigits 10 port.toNat).isEmpty = false := by
    rw [List.isEmpty_eq_false_iff]
    exact Nat.toDigits_ne_nil
  have digits : (Nat.toDigits 10 port.toNat).all (AddressReader.isDigit 10) = true := by
    rw [List.all_eq_true]
    intro c member
    exact (digits_of_isDigit
      (Nat.isDigit_of_mem_toDigits (by decide) (by decide) member)).1
  have within : port.toNat < 0x10000 := UInt16.toNat_lt port
  rw [portOf, nonempty, digits, digitsValue_toDigits]
  simp only [Bool.false_eq_true, ↓reduceIte, within, UInt16.ofNat_toNat]

/-! ## The whole -/

theorem isSkipped_of_not_mem
    {c : Char}
    (noMark : c ∉ marks) :
    isSkipped c = false := by
  simp only [marks, List.mem_cons, List.not_mem_nil, or_false, not_or] at noMark
  simp [isSkipped, noMark]

theorem endsAuthority_of_not_mem
    {c : Char}
    (noMark : c ∉ '/' :: marks) :
    endsAuthority c = false := by
  simp only [marks, List.mem_cons, List.not_mem_nil, or_false, not_or] at noMark
  simp [endsAuthority, UrlPath.isSlash, noMark]

/-- Nothing in front of the path ends that part, is skipped, or ends credentials. -/
theorem of_mem_authority
    {host : List Char}
    (plain : PlainHost host)
    (port : UInt16)
    {c : Char}
    (member : c ∈ host ++ ':' :: Nat.toDigits 10 port.toNat) :
    isSkipped c = false ∧ endsAuthority c = false ∧ c ≠ '@' := by
  rcases List.mem_append.mp member with inHost | behind
  · have noMark := (plain.facts inHost).2.1
    refine ⟨isSkipped_of_not_mem fun isMark => noMark (List.mem_cons_of_mem _ isMark),
      endsAuthority_of_not_mem noMark, ?_⟩
    rintro rfl
    exact noMark (by decide)
  · rcases List.mem_cons.mp behind with rfl | digit
    · decide
    · obtain ⟨-, -, kept, inside, noUser⟩ := digits_of_isDigit
        (Nat.isDigit_of_mem_toDigits (by decide) (by decide) digit)
      exact ⟨by simpa using kept, by simpa using inside, noUser⟩

/-- The part with host and port gives these and nothing else. -/
theorem readAuthority_of_plain
    (names : NameMapping)
    (secure : Bool)
    {host : List Char}
    (plain : PlainHost host)
    (port : UInt16) :
    readAuthority names secure (host ++ ':' :: Nat.toDigits 10 port.toNat) =
      .ok ([], .domain (String.ofList host),
        if port = usualPort secure then none else some port) := by
  have noMark {c : Char} (member : c ∈ host) : c ∉ marks :=
    fun isMark => (plain.facts member).2.1 (List.mem_cons_of_mem _ isMark)
  have noUser : ∀ c ∈ host ++ ':' :: Nat.toDigits 10 port.toNat, (c == '@') = false :=
    fun c member => beq_false_of_ne (of_mem_authority plain port member).2.2
  have noColon : ∀ c ∈ host, c ∉ [':', '[', ']'] := by
    intro c member isMark
    have among : ∀ mark ∈ [':', '[', ']'], mark ∈ marks := by simp [marks]
    exact noMark member (among c isMark)
  rw [readAuthority, Pieces.cutLast_of_absent noUser]
  simp only [cutPort_of_absent noColon, Host.ofChars_of_plain names plain, Option.getD_some,
    portOf_toDigits]
  rfl

/-- A plain URL is read as what it says. -/
theorem read_of_plain
    (names : NameMapping)
    (secure : Bool)
    {host : List Char}
    (plainHost : PlainHost host)
    (port : UInt16)
    {path : List Char}
    (plainPath : ∀ c ∈ path, isPlain c = true)
    (noHere : ['.'] ∉ path.splitOn '/')
    (noBack : ['.', '.'] ∉ path.splitOn '/') :
    read names secure
        (String.ofList (host ++ ':' :: Nat.toDigits 10 port.toNat ++ '/' :: path)) =
      .ok {
        secure
        credentials := []
        host := .domain (String.ofList host)
        port := if port = usualPort secure then none else some port
        path := '/' :: path
        query := none
        fragment := none
      } := by
  have inPath {c : Char} (member : c ∈ '/' :: path) : c ∉ marks := by
    rcases List.mem_cons.mp member with rfl | inside
    · decide
    · exact (of_isPlain (plainPath c inside)).2
  have inAuthority {c : Char} (member : c ∈ host ++ ':' :: Nat.toDigits 10 port.toNat) :=
    of_mem_authority plainHost port member
  have begins : (host ++ ':' :: Nat.toDigits 10 port.toNat ++ '/' :: path).dropWhile
      UrlPath.isSlash = host ++ ':' :: Nat.toDigits 10 port.toNat ++ '/' :: path := by
    obtain ⟨first, rest, rfl, lower⟩ := plainHost.exists_cons
    have noSlash := endsAuthority_of_not_mem (plainHost.facts List.mem_cons_self).2.1
    simp only [endsAuthority, Bool.or_eq_false_iff] at noSlash
    exact List.dropWhile_cons_of_neg (by simp [noSlash])
  have authorityRead := readAuthority_of_plain names secure plainHost port
  generalize host ++ ':' :: Nat.toDigits 10 port.toNat = authority
    at inAuthority begins authorityRead ⊢
  have kept : (authority ++ '/' :: path).filter (fun c => !isSkipped c) =
      authority ++ '/' :: path := by
    rw [List.filter_eq_self]
    intro c member
    rcases List.mem_append.mp member with front | behind
    · simp [(inAuthority front).1]
    · simp [isSkipped_of_not_mem (inPath behind)]
  have goesOn : ∀ c ∈ authority, (!endsAuthority c) = true := by
    intro c member
    simp [(inAuthority member).2.1]
  have front : (authority ++ '/' :: path).takeWhile (fun c => !endsAuthority c) = authority := by
    rw [List.takeWhile_append_of_pos goesOn, List.takeWhile_cons_of_neg (by decide),
      List.append_nil]
  have behind :
      (authority ++ '/' :: path).dropWhile (fun c => !endsAuthority c) = '/' :: path := by
    rw [List.dropWhile_append_of_pos goesOn, List.dropWhile_cons_of_neg (by decide)]
  have absent {mark : Char} (isMark : mark ∈ marks) :
      ∀ c ∈ '/' :: path, (c == mark) = false :=
    fun c member => beq_false_of_ne fun same => inPath member (same ▸ isMark)
  have noFragment := Pieces.cutOnce_of_absent (absent (by decide : '#' ∈ marks))
  have noQuery := Pieces.cutOnce_of_absent (absent (by decide : '?' ∈ marks))
  simp only [read, String.toList_ofList, kept, begins, front, behind, authorityRead,
    noFragment, noQuery, UrlPath.ofChars_of_plain plainPath noHere noBack, Option.map_none]

end SocketUrl

end SignalRelay
