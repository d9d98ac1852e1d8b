import SignalRelay.Proofs.Utf8
import SignalRelay.Text.Keyed

namespace SignalRelay

/-!
# Entries by text

What is found under a key after an entry was put there or taken away needs no order of the
entries: an entry is always put in front of those that it hides.  Entries that are in order
stay so, and putting them one after another into an empty list gives them back.
-/

namespace Keyed

/-- The entry that was put under a key is found there. -/
theorem lookup_insert_same
    (key : String)
    (entry : α)
    (entries : List (String × α)) :
    (insert key entry entries).lookup key = some entry := by
  induction entries with
  | nil =>
      simp [insert]
  | cons head rest inductionHypothesis =>
      rcases head with ⟨other, held⟩
      unfold insert
      split
      · simp
      · next different =>
          split
          · simp
          · have notHead : (key == other) = false := by
              simpa using different
            simp [List.lookup_cons, notHead, inductionHypothesis]

theorem lookup_insert_other
    {key other : String}
    (different : other ≠ key)
    (entry : α)
    (entries : List (String × α)) :
    (insert key entry entries).lookup other = entries.lookup other := by
  have notKey : (other == key) = false := by
    simpa using different
  induction entries with
  | nil =>
      simp [insert, List.lookup_cons, notKey]
  | cons head rest inductionHypothesis =>
      rcases head with ⟨first, held⟩
      unfold insert
      split
      · next same =>
          subst first
          simp [List.lookup_cons, notKey]
      · split
        · simp [List.lookup_cons, notKey]
        · simp only [List.lookup_cons, inductionHypothesis]

theorem lookup_erase_same
    (key : String)
    (entries : List (String × α)) :
    (erase key entries).lookup key = none := by
  rw [List.lookup_eq_none_iff]
  intro entry member
  have kept : entry.1 ≠ key := by
    simpa [erase] using (List.mem_filter.mp member).2
  simpa using Ne.symm kept

theorem lookup_erase_other
    {key other : String}
    (different : other ≠ key)
    (entries : List (String × α)) :
    (erase key entries).lookup other = entries.lookup other := by
  induction entries with
  | nil =>
      rfl
  | cons head rest inductionHypothesis =>
      rcases head with ⟨first, held⟩
      unfold erase at inductionHypothesis ⊢
      by_cases same : first = key
      · subst first
        have notKey : (other == key) = false := by
          simpa using different
        simp [List.lookup_cons, notKey, inductionHypothesis]
      · simp [List.lookup_cons, same, inductionHypothesis]

/-- The keys are in the order of their octets, without repetition. -/
def Ascending (entries : List (String × α)) : Prop :=
  entries.Pairwise fun first second => Utf8.precedes first.1 second.1 = true

theorem mem_of_mem_insert
    {key : String}
    {entry : α}
    {entries : List (String × α)}
    {found : String × α}
    (member : found ∈ insert key entry entries) :
    found = (key, entry) ∨ found ∈ entries := by
  induction entries with
  | nil =>
      simpa [insert] using member
  | cons head rest inductionHypothesis =>
      rcases head with ⟨other, held⟩
      unfold insert at member
      split at member
      · rcases List.mem_cons.mp member with same | later
        · exact .inl same
        · exact .inr (List.mem_cons_of_mem _ later)
      · split at member
        · exact List.mem_cons.mp member
        · rcases List.mem_cons.mp member with same | later
          · exact .inr (same ▸ List.mem_cons_self)
          · exact (inductionHypothesis later).imp_right (List.mem_cons_of_mem _)

/-- Entries in order stay in order. -/
theorem ascending_insert
    (key : String)
    (entry : α)
    {entries : List (String × α)}
    (ascending : Ascending entries) :
    Ascending (insert key entry entries) := by
  induction entries with
  | nil =>
      exact List.pairwise_singleton _ _
  | cons head rest inductionHypothesis =>
      rcases head with ⟨other, held⟩
      obtain ⟨headFirst, restAscending⟩ := List.pairwise_cons.mp ascending
      unfold insert
      split
      · next same =>
          subst same
          exact List.pairwise_cons.mpr ⟨headFirst, restAscending⟩
      · next different =>
          split
          · next before =>
              refine List.pairwise_cons.mpr ⟨?_, ascending⟩
              intro later member
              rcases List.mem_cons.mp member with same | inRest
              · exact same ▸ before
              · exact Utf8.precedes_trans before (headFirst later inRest)
          · next notBefore =>
              refine List.pairwise_cons.mpr ⟨?_, inductionHypothesis restAscending⟩
              intro later member
              rcases mem_of_mem_insert member with same | inRest
              · exact same ▸ Utf8.precedes_of_not_precedes different notBefore
              · exact headFirst later inRest

/-- Entries in order stay in order when one is taken away. -/
theorem ascending_erase
    (key : String)
    {entries : List (String × α)}
    (ascending : Ascending entries) :
    Ascending (erase key entries) :=
  ascending.filter _

/-- Entries in order have no key twice. -/
theorem keys_nodup
    {entries : List (String × α)}
    (ascending : Ascending entries) :
    (entries.map (·.1)).Nodup := by
  rw [List.Nodup, List.pairwise_map]
  refine List.Pairwise.imp ?_ ascending
  intro first second before same
  exact Utf8.precedes_irrefl second.1 (same ▸ before)

/-- Every one of entries in order is found under its key. -/
theorem lookup_of_mem
    {entries : List (String × α)}
    (ascending : Ascending entries)
    {key : String}
    {entry : α}
    (member : (key, entry) ∈ entries) :
    entries.lookup key = some entry := by
  induction entries with
  | nil =>
      cases member
  | cons head rest inductionHypothesis =>
      obtain ⟨headFirst, restAscending⟩ := List.pairwise_cons.mp ascending
      rcases List.mem_cons.mp member with isHead | inRest
      · subst isHead
        simp
      · have different : (key == head.1) = false := by
          rw [beq_eq_false_iff_ne]
          rintro rfl
          exact Utf8.precedes_irrefl head.1 (headFirst (head.1, entry) inRest)
        rw [List.lookup_cons, different]
        exact inductionHypothesis restAscending inRest

/-- There is at most one entry more after one was put among them. -/
theorem length_insert_le
    (key : String)
    (entry : α)
    (entries : List (String × α)) :
    (insert key entry entries).length ≤ entries.length + 1 := by
  induction entries with
  | nil =>
      exact Nat.le_refl _
  | cons head rest inductionHypothesis =>
      unfold insert
      split
      · exact Nat.le_succ _
      · split
        · exact Nat.le_refl _
        · exact Nat.succ_le_succ inductionHypothesis

/-- An entry whose key is not there is added to the others. -/
theorem insert_perm
    {key : String}
    {entries : List (String × α)}
    (absent : key ∉ entries.map (·.1))
    (entry : α) :
    (insert key entry entries).Perm ((key, entry) :: entries) := by
  induction entries with
  | nil =>
      exact .refl _
  | cons head rest inductionHypothesis =>
      rcases head with ⟨other, held⟩
      have different : key ≠ other := by
        rintro rfl
        exact absent List.mem_cons_self
      have absentFromRest : key ∉ rest.map (·.1) :=
        fun inRest => absent (List.mem_cons_of_mem _ inRest)
      unfold insert
      rw [if_neg different]
      split
      · exact .refl _
      · exact ((inductionHypothesis absentFromRest).cons _).trans (.swap ..)

/-- A key that is not there is added to the others. -/
theorem keys_insert_perm
    {key : String}
    {entries : List (String × α)}
    (absent : key ∉ entries.map (·.1))
    (entry : α) :
    ((insert key entry entries).map (·.1)).Perm (entries.map (·.1) ++ [key]) :=
  ((insert_perm absent entry).map _).trans (List.perm_append_singleton key _).symm

/-- An entry whose key comes after all others is put at the end. -/
theorem insert_eq_append
    {key : String}
    {entry : α}
    {entries : List (String × α)}
    (last : ∀ held ∈ entries, Utf8.precedes held.1 key = true) :
    insert key entry entries = entries ++ [(key, entry)] := by
  induction entries with
  | nil =>
      rfl
  | cons head rest inductionHypothesis =>
      rcases head with ⟨other, held⟩
      have before : Utf8.precedes other key = true := last _ List.mem_cons_self
      have different : key ≠ other := by
        intro same
        exact Utf8.precedes_irrefl key (same ▸ before)
      have notAfter : ¬Utf8.precedes key other = true := by
        intro after
        exact Utf8.precedes_irrefl key (Utf8.precedes_trans after before)
      unfold insert
      rw [if_neg different, if_neg notAfter,
        inductionHypothesis fun held member => last held (List.mem_cons_of_mem _ member)]
      rfl

/-- Entries in order, put one after another behind others, end up as they were. -/
theorem foldl_insert
    {held entries : List (String × α)}
    (ascending : Ascending (held ++ entries)) :
    entries.foldl (fun held entry => insert entry.1 entry.2 held) held =
      held ++ entries := by
  induction entries generalizing held with
  | nil =>
      simp
  | cons head rest inductionHypothesis =>
      have last : ∀ earlier ∈ held, Utf8.precedes earlier.1 head.1 = true := by
        intro earlier member
        exact (List.pairwise_append.mp ascending).2.2 earlier member head List.mem_cons_self
      rw [List.foldl_cons, insert_eq_append last, inductionHypothesis (by simpa using ascending)]
      simp

/-- Of entries that are put one after another under a key the last is found there. -/
theorem lookup_foldl_insert
    (key : String)
    (entries held : List (String × α)) :
    (entries.foldl (fun held entry => insert entry.1 entry.2 held) held).lookup key =
      ((entries.filter (·.1 == key)).map (·.2)).getLast?.or (held.lookup key) := by
  induction entries generalizing held with
  | nil =>
      rfl
  | cons head rest inductionHypothesis =>
      rw [List.foldl_cons, inductionHypothesis]
      by_cases same : head.1 = key
      · subst same
        simp only [lookup_insert_same, List.filter_cons, beq_self_eq_true, ↓reduceIte,
          List.map_cons, List.getLast?_cons]
        cases ((rest.filter (·.1 == head.1)).map (·.2)).getLast? <;> rfl
      · have different : (head.1 == key) = false := by simpa using same
        simp only [lookup_insert_other (Ne.symm same), List.filter_cons, different,
          Bool.false_eq_true, ↓reduceIte]

/-- Whatever is put one after another into entries in order, they stay in order. -/
theorem ascending_foldl_insert
    (entries : List (String × α))
    {held : List (String × α)}
    (ascending : Ascending held) :
    Ascending (entries.foldl (fun held entry => insert entry.1 entry.2 held) held) := by
  induction entries generalizing held with
  | nil =>
      exact ascending
  | cons head rest inductionHypothesis =>
      exact inductionHypothesis (ascending_insert head.1 head.2 ascending)

theorem mem_of_mem_foldl_insert
    {entries held : List (String × α)}
    {found : String × α}
    (member :
      found ∈ entries.foldl (fun held entry => insert entry.1 entry.2 held) held) :
    found ∈ held ∨ found ∈ entries := by
  induction entries generalizing held with
  | nil =>
      exact .inl member
  | cons head rest inductionHypothesis =>
      rcases inductionHypothesis member with inHeld | inRest
      · rcases mem_of_mem_insert inHeld with same | earlier
        · exact .inr (same ▸ List.mem_cons_self)
        · exact .inl earlier
      · exact .inr (List.mem_cons_of_mem _ inRest)

end Keyed

end SignalRelay
