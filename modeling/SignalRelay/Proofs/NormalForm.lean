import SignalRelay.Proofs.Mount

namespace SignalRelay

/-!
# When the normal form of a mount path is normal

White space is stripped from a path first and slashes after that, each once.  So the result
begins with one slash and does not end with one.  But white space in front of the slashes at the
end of a path is left at the end of the result, and stripping the result takes it away.
-/

/-! ## Stripping around what stays -/

namespace Blank

variable {test : Char → Bool} {chars : List Char}

theorem test_of_head?
    {first : Char}
    (begins : (stripWhile test chars).head? = some first) :
    test first = false := by
  obtain ⟨rest, stripped⟩ := List.head?_eq_some_iff.mp begins
  -- What is stripped from the end leaves the beginning as it is.
  obtain ⟨behind, opened⟩ := List.rdropWhile_prefix test (chars.dropWhile test)
  rw [← stripWhile_eq_rdropWhile, stripped] at opened
  have stops := List.head?_dropWhile_not test chars
  rwa [← opened] at stops

theorem rdropWhile_append_cons
    {c : Char}
    (stays : test c = false)
    (front rest : List Char) :
    (front ++ c :: rest).rdropWhile test = front ++ c :: rest.rdropWhile test := by
  induction rest using List.reverseRecOn with
  | nil => exact List.rdropWhile_concat_neg test front c (Bool.eq_false_iff.mp stays)
  | append_singleton rest last inductionHypothesis =>
      rw [← List.cons_append, ← List.append_assoc, List.rdropWhile_concat, List.rdropWhile_concat,
        inductionHypothesis]
      split
      · rfl
      · rw [List.append_assoc, List.cons_append]

/-- In front of a character that stays only the beginning is stripped, behind it only the end. -/
theorem stripWhile_append_cons
    {c : Char}
    (stays : test c = false)
    (front rest : List Char) :
    stripWhile test (front ++ c :: rest) = front.dropWhile test ++ c :: rest.rdropWhile test := by
  have opened : (front ++ c :: rest).dropWhile test = front.dropWhile test ++ c :: rest := by
    rw [List.dropWhile_append, List.dropWhile_cons_of_neg (Bool.eq_false_iff.mp stays)]
    split
    · next none => rw [List.isEmpty_iff.mp none, List.nil_append]
    · rfl
  rw [stripWhile_eq_rdropWhile, opened, rdropWhile_append_cons stays]

/-- What was stripped has nothing more to strip. -/
theorem stripWhile_stripWhile
    (test : Char → Bool)
    (chars : List Char) :
    stripWhile test (stripWhile test chars) = stripWhile test chars := by
  have first {c : Char} (begins : (stripWhile test chars).head? = some c) := test_of_head? begins
  have last {c : Char} (ends : (stripWhile test chars).getLast? = some c) := test_of_getLast? ends
  generalize stripWhile test chars = stripped at first last
  cases stripped with
  | nil => rfl
  | cons c rest =>
      have closed : rest.rdropWhile test = rest := by
        rw [List.rdropWhile_eq_self_iff]
        intro nonempty
        refine Bool.eq_false_iff.mp (last ?_)
        rw [List.getLast?_cons_of_ne_nil nonempty, List.getLast?_eq_some_getLast nonempty]
      exact (stripWhile_append_cons (first rfl) [] rest).trans (congrArg (c :: ·) closed)

end Blank

namespace MountPath

/-! ## Normal forms -/

/-- One slash at the beginning, and none at the end. -/
def IsRooted (path : String) : Prop :=
  ∃ first rest,
    path.toList = '/' :: first :: rest ∧
      first ≠ '/' ∧
      (first :: rest).getLast? ≠ some '/'

/-- At the end of a path, but for white space behind it, there are slashes with white space in
front of them, and something else than white space further in front. -/
def HasBlankBeforeSlashes (path : String) : Prop :=
  ∃ (front slashes after : List Char) (blank : Char),
    path.toList = front ++ blank :: (slashes ++ after) ∧
      (∃ c ∈ front, Blank.isBlank c = false) ∧
      Blank.isBlank blank = true ∧
      slashes ≠ [] ∧
      (∀ c ∈ slashes, isSlash c = true) ∧
      ∀ c ∈ after, Blank.isBlank c = true

theorem isBlank_of_isSlash
    {c : Char}
    (slash : isSlash c = true) :
    Blank.isBlank c = false := by
  cases eq_of_beq slash
  decide

theorem isSlash_of_isBlank
    {c : Char}
    (blank : Blank.isBlank c = true) :
    isSlash c = false := by
  apply Bool.eq_false_iff.mpr
  intro slash
  rw [isBlank_of_isSlash slash] at blank
  cases blank

theorem normal_shape
    (path : String) :
    normalize path = "/" ∨ IsRooted (normalize path) := by
  cases stripped : bare path with
  | nil =>
      refine .inl ?_
      rw [normalize, stripped]
  | cons first rest =>
      refine .inr ⟨first, rest, ?_, ?_, ?_⟩
      · rw [normalize, stripped, String.toList_ofList]
      · have begins : (bare path).head? = some first := by rw [stripped, List.head?_cons]
        rintro rfl
        exact absurd (Blank.test_of_head? begins) (by decide)
      · rw [← stripped]
        intro ends
        exact absurd (Blank.test_of_getLast? ends) (by decide)

/-- Of a normal form white space is stripped at the end only, and then slashes. -/
theorem bare_normalize
    (path : String) :
    bare (normalize path) =
      Blank.stripWhile isSlash ((bare path).rdropWhile Blank.isBlank) := by
  have opened : Blank.stripWhile Blank.isBlank ('/' :: bare path) =
      '/' :: (bare path).rdropWhile Blank.isBlank :=
    Blank.stripWhile_append_cons (by decide) [] (bare path)
  conv_lhs => rw [bare, normalize, String.toList_ofList, opened]
  rw [Blank.stripWhile_eq_rdropWhile, List.dropWhile_cons_of_pos (by decide)]
  rfl

theorem normalize_eq_iff
    {first second : String} :
    normalize first = normalize second ↔ bare first = bare second := by
  constructor
  · intro same
    have chars := congrArg String.toList same
    rw [normalize, normalize, String.toList_ofList, String.toList_ofList] at chars
    exact List.tail_eq_of_cons_eq chars
  · intro same
    rw [normalize, normalize, same]

/-- A normal form stays as it is unless it ends with white space. -/
theorem normalize_normalize_iff_last
    (path : String) :
    normalize (normalize path) = normalize path ↔
      ∀ last, (bare path).getLast? = some last → Blank.isBlank last = false := by
  rw [normalize_eq_iff, bare_normalize]
  constructor
  · intro same last ends
    apply Bool.eq_false_iff.mpr
    intro blank
    obtain ⟨front, split⟩ := List.getLast?_eq_some_iff.mp ends
    rw [split, List.rdropWhile_concat_pos _ _ _ blank] at same
    have shorter := congrArg List.length same
    have stripped :=
      (Blank.stripWhile_sublist isSlash (front.rdropWhile Blank.isBlank)).length_le
    have within := (List.rdropWhile_prefix Blank.isBlank front).length_le
    rw [List.length_append, List.length_singleton] at shorter
    omega
  · intro noBlank
    have closed : (bare path).rdropWhile Blank.isBlank = bare path := by
      rw [List.rdropWhile_eq_self_iff]
      intro nonempty
      exact Bool.eq_false_iff.mp (noBlank _ (List.getLast?_eq_some_getLast nonempty))
    rw [closed]
    exact Blank.stripWhile_stripWhile isSlash _

/-! ## White space in front of slashes -/

/-- What is left of a path ends with white space just if there are slashes behind it. -/
theorem hasBlankBeforeSlashes_iff
    (path : String) :
    HasBlankBeforeSlashes path ↔
      ∃ last, (bare path).getLast? = some last ∧ Blank.isBlank last = true := by
  constructor
  · rintro ⟨front, slashes, after, blank, split, ⟨c, member, kept⟩, isBlank, some, slash, behind⟩
    obtain ⟨earlier, later, rfl⟩ := List.append_of_mem member
    obtain ⟨more, last, rfl⟩ := (List.eq_nil_or_concat' slashes).resolve_left some
    have lastSlash : isSlash last = true := slash last (List.mem_append_right _ List.mem_cons_self)
    have nothing : after.rdropWhile Blank.isBlank = [] := List.rdropWhile_eq_nil_iff.mpr behind
    have trimmed : Blank.stripWhile Blank.isBlank path.toList =
        (earlier.dropWhile Blank.isBlank ++ c :: later) ++ blank :: (more ++ [last]) := by
      rw [split, List.append_assoc, List.cons_append, Blank.stripWhile_append_cons kept]
      have closed := Blank.rdropWhile_append_cons (isBlank_of_isSlash lastSlash)
        (later ++ blank :: more) after
      rw [nothing] at closed
      simpa using closed
    have bareEnds := Blank.stripWhile_append_cons (isSlash_of_isBlank isBlank)
      (earlier.dropWhile Blank.isBlank ++ c :: later) (more ++ [last])
    rw [List.rdropWhile_eq_nil_iff.mpr slash, ← trimmed] at bareEnds
    exact ⟨blank, by rw [bare, bareEnds, List.getLast?_concat], isBlank⟩
  · rintro ⟨last, ends, isBlank⟩
    obtain ⟨body, split⟩ := List.getLast?_eq_some_iff.mp ends
    obtain ⟨before, after, around, -, behind⟩ :=
      Blank.exists_around Blank.isBlank path.toList
    obtain ⟨slashes, moreSlashes, within, -, slash⟩ :=
      Blank.exists_around isSlash (Blank.stripWhile Blank.isBlank path.toList)
    have trimmed : Blank.stripWhile Blank.isBlank path.toList =
        slashes ++ body ++ last :: moreSlashes := by
      rw [within, ← bare, split]
      simp
    -- The text without white space at its ends neither begins nor ends with this character.
    have kept {c : Char} (outer : (slashes ++ body ++ last :: moreSlashes).head? = some c ∨
        (slashes ++ body ++ last :: moreSlashes).getLast? = some c) :
        Blank.isBlank c = false := by
      rw [← trimmed] at outer
      exact outer.elim Blank.test_of_head? Blank.test_of_getLast?
    refine ⟨before ++ (slashes ++ body), moreSlashes, after, last, ?_, ?_, isBlank, ?_, slash,
      behind⟩
    · rw [around, trimmed]
      simp
    · cases front : slashes ++ body with
      | nil =>
          rw [front] at kept
          have stays := kept (.inl rfl)
          rw [isBlank] at stays
          cases stays
      | cons c rest =>
          rw [front] at kept
          exact ⟨c, List.mem_append_right _ List.mem_cons_self, kept (.inl rfl)⟩
    · rintro rfl
      have stays := kept (.inr List.getLast?_concat)
      rw [isBlank] at stays
      cases stays

theorem normalize_normalize_iff
    (path : String) :
    normalize (normalize path) = normalize path ↔ ¬HasBlankBeforeSlashes path := by
  rw [normalize_normalize_iff_last, hasBlankBeforeSlashes_iff]
  simp

theorem normalize_ne_empty
    (path : String) :
    normalize path ≠ "" := by
  intro empty
  have chars := congrArg String.toList empty
  rw [normalize, String.toList_ofList] at chars
  cases chars

/-- Clients look for the relay below the same path just if the normal forms are the same. -/
theorem mount_eq_mount_iff
    {first second : ClientOptions} :
    first.mount = second.mount ↔ normalize first.path = normalize second.path := by
  rw [first.mount_eq, second.mount_eq]
  constructor
  · intro same
    split at same
    · next firstRoot =>
        split at same
        · next secondRoot => exact firstRoot.trans secondRoot.symm
        · exact absurd same.symm (normalize_ne_empty second.path)
    · split at same
      · exact absurd same (normalize_ne_empty first.path)
      · exact same
  · intro same
    rw [same]

/--
Every path is brought to a single slash, or to a path with one slash in front and none at its end.
Doing so once more changes nothing, and a client that is given the result looks for the relay where
it would with the path itself, unless the path has white space before the slashes at its end.
The result then ends with that white space, which is stripped when it is read again.
-/
theorem normal_unless_blank_before_slashes
    (path : String) :
    (normalize path = "/" ∨ IsRooted (normalize path)) ∧
      (normalize (normalize path) = normalize path ↔ ¬HasBlankBeforeSlashes path) ∧
      ∀ options : ClientOptions,
        { options with path := normalize path }.mount = { options with path }.mount ↔
          ¬HasBlankBeforeSlashes path :=
  ⟨normal_shape path, normalize_normalize_iff path,
    fun _ => mount_eq_mount_iff.trans (normalize_normalize_iff path)⟩

example : normalize "/a /" = "/a " ∧ normalize "/a " = "/a" := by
  decide

end MountPath

end SignalRelay
