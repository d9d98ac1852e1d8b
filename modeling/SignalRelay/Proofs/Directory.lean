import SignalRelay.Proofs.Keyed
import SignalRelay.Relay.Directory

namespace SignalRelay

/-!
# Lookups in the directory

What is found under an id after a client was put there or taken away.
-/

namespace Directory

@[simp] theorem find?_empty
    (id : String) :
    empty.find? id = none :=
  rfl

@[simp] theorem find?_insert_same
    (directory : Directory)
    (id : String)
    (client : ClientRef) :
    (directory.insert id client).find? id = some client :=
  Keyed.lookup_insert_same id client directory.entries

theorem find?_insert_other
    {id other : String}
    (different : other ≠ id)
    (directory : Directory)
    (client : ClientRef) :
    (directory.insert id client).find? other = directory.find? other :=
  Keyed.lookup_insert_other different client directory.entries

@[simp] theorem find?_erase_same
    (directory : Directory)
    (id : String) :
    (directory.erase id).find? id = none :=
  Keyed.lookup_erase_same id directory.entries

theorem find?_erase_other
    {id other : String}
    (different : other ≠ id)
    (directory : Directory) :
    (directory.erase id).find? other = directory.find? other :=
  Keyed.lookup_erase_other different directory.entries

@[simp] theorem length_ids
    (directory : Directory) :
    directory.ids.length = directory.size :=
  List.length_map _

/-- Nothing is found exactly under ids that are not there. -/
theorem find?_eq_none_iff
    {directory : Directory}
    {id : String} :
    directory.find? id = none ↔ id ∉ directory.ids := by
  simp only [find?, ids, List.lookup_eq_none_iff, List.mem_map, not_exists, not_and]
  constructor
  · intro absent entry member same
    simpa [same] using absent entry member
  · intro absent entry member
    simpa using fun same => absent entry member same.symm

theorem mem_ids_iff
    (directory : Directory)
    {id : String} :
    id ∈ directory.ids ↔ ∃ client, directory.find? id = some client := by
  rw [← Option.ne_none_iff_exists', ne_eq, find?_eq_none_iff, Classical.not_not]

/-- Taking away what is not there changes nothing. -/
theorem erase_of_free
    {directory : Directory}
    {id : String}
    (free : directory.find? id = none) :
    directory.erase id = directory := by
  have kept : ∀ entry ∈ directory.entries, (entry.1 != id) = true := by
    intro entry member
    rw [bne_iff_ne]
    rintro rfl
    exact find?_eq_none_iff.mp free (List.mem_map_of_mem member)
  exact congrArg mk (List.filter_eq_self.mpr kept)

theorem isEmpty_iff
    (directory : Directory) :
    directory.isEmpty = true ↔ directory.ids = [] := by
  rw [isEmpty, beq_iff_eq, ← length_ids, List.length_eq_zero_iff]

/-- An id that is not there is added to the others. -/
theorem ids_insert_perm
    {directory : Directory}
    {id : String}
    (absent : id ∉ directory.ids)
    (client : ClientRef) :
    (directory.insert id client).ids.Perm (directory.ids ++ [id]) :=
  Keyed.keys_insert_perm absent client

end Directory

end SignalRelay
