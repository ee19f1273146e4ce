import Mathlib.Order.Lattice

/-!
# Maps as ordered lists of entries

A map with its entries in the order of their keys, as `BTreeMap` iterates over
them, and looked up with `List.lookup`.
-/

namespace Telekio.Keyed

variable {κ α β : Type*} [LinearOrder κ]

/-- An entry that has the key is replaced. -/
def insert (key : κ) (value : α) : List (κ × α) → List (κ × α)
  | [] => [(key, value)]
  | (other, old) :: rest =>
      if key = other then
        (key, value) :: rest
      else if key < other then
        (key, value) :: (other, old) :: rest
      else
        (other, old) :: insert key value rest

def remove (key : κ) (entries : List (κ × α)) : List (κ × α) :=
  entries.filter (·.1 ≠ key)

/-- The keys are in strictly ascending order. -/
def Sorted (entries : List (κ × α)) : Prop :=
  entries.Pairwise (·.1 < ·.1)

instance (entries : List (κ × α)) : Decidable (Sorted entries) :=
  inferInstanceAs (Decidable (entries.Pairwise (·.1 < ·.1)))

variable {key other : κ} {value : α} {entries : List (κ × α)}

theorem lookup_cons : ((other, value) :: entries).lookup key =
    if key = other then some value else entries.lookup key := by
  rw [List.lookup_cons]
  by_cases same : key = other
  · rw [if_pos same, beq_iff_eq.mpr same]
  · rw [if_neg same, beq_eq_false_iff_ne.mpr same]

@[simp]
theorem lookup_insert_self :
    (insert key value entries).lookup key = some value := by
  induction entries with
  | nil => simp [insert]
  | cons entry rest ih =>
      obtain ⟨first, old⟩ := entry
      unfold insert
      split
      · simp
      · rename_i different
        split
        · simp
        · rw [lookup_cons, if_neg different, ih]

theorem lookup_insert_of_ne (different : other ≠ key) :
    (insert key value entries).lookup other = entries.lookup other := by
  induction entries with
  | nil => simp [insert, lookup_cons, different]
  | cons entry rest ih =>
      obtain ⟨first, old⟩ := entry
      unfold insert
      split
      · rename_i same
        subst same
        simp [lookup_cons, different]
      · split
        · rw [lookup_cons, if_neg different]
        · rw [lookup_cons, lookup_cons, ih]

theorem lookup_insert : (insert key value entries).lookup other =
    if other = key then some value else entries.lookup other := by
  by_cases same : other = key
  · subst same
    simp
  · rw [lookup_insert_of_ne same, if_neg same]

theorem lookup_remove : (remove key entries).lookup other =
    if other = key then none else entries.lookup other := by
  induction entries with
  | nil => simp [remove]
  | cons entry rest ih =>
      obtain ⟨first, old⟩ := entry
      unfold remove at ih ⊢
      by_cases removed : first = key
      · subst removed
        rw [List.filter_cons_of_neg (by simp), ih, lookup_cons]
        split <;> rfl
      · rw [List.filter_cons_of_pos (by simpa using removed), lookup_cons,
          lookup_cons, ih]
        by_cases found : other = first
        · subst found
          simp [removed]
        · simp [found]

theorem lookup_remove_self : (remove key entries).lookup key = none := by
  simp [lookup_remove]

/-- An entry that is removed may have been put in just before. -/
theorem remove_insert :
    remove key (insert key value entries) = remove key entries := by
  induction entries with
  | nil => simp [insert, remove]
  | cons entry rest ih =>
      obtain ⟨first, old⟩ := entry
      unfold insert
      split
      · rename_i same
        subst same
        simp [remove]
      · split
        · simp [remove]
        · unfold remove at ih ⊢
          rw [List.filter_cons, List.filter_cons, ih]

theorem mem_of_lookup (found : entries.lookup key = some value) :
    (key, value) ∈ entries := by
  induction entries with
  | nil => simp at found
  | cons entry rest ih =>
      obtain ⟨first, old⟩ := entry
      rw [lookup_cons] at found
      split at found
      · rename_i same
        subst same
        cases found
        exact List.mem_cons_self
      · exact List.mem_cons_of_mem _ (ih found)

theorem lookup_eq_none_iff :
    entries.lookup key = none ↔ key ∉ entries.map Prod.fst := by
  induction entries with
  | nil => simp
  | cons entry rest ih =>
      obtain ⟨first, old⟩ := entry
      rw [lookup_cons, List.map_cons, List.mem_cons, not_or, ← ih]
      by_cases same : key = first <;> simp [same]

theorem lookup_of_mem (sorted : Sorted entries)
    (member : (key, value) ∈ entries) : entries.lookup key = some value := by
  induction entries with
  | nil => simp at member
  | cons entry rest ih =>
      obtain ⟨below, sortedRest⟩ := List.pairwise_cons.mp sorted
      obtain ⟨first, old⟩ := entry
      rw [lookup_cons]
      rcases List.mem_cons.mp member with same | later
      · cases same
        simp
      · have before : first < key := below _ later
        rw [if_neg (ne_of_gt before), ih sortedRest later]

/-- What `insert` leaves behind is the new entry and old ones. -/
theorem mem_insert {entry : κ × α}
    (member : entry ∈ insert key value entries) :
    entry = (key, value) ∨ entry ∈ entries := by
  induction entries with
  | nil => exact Or.inl (by simpa [insert] using member)
  | cons first rest ih =>
      obtain ⟨other, old⟩ := first
      unfold insert at member
      split at member
      · rcases List.mem_cons.mp member with same | later
        · exact Or.inl same
        · exact Or.inr (List.mem_cons_of_mem _ later)
      · split at member
        · rcases List.mem_cons.mp member with same | later
          · exact Or.inl same
          · exact Or.inr later
        · rcases List.mem_cons.mp member with same | later
          · exact Or.inr (List.mem_cons.mpr (Or.inl same))
          · rcases ih later with new | old
            · exact Or.inl new
            · exact Or.inr (List.mem_cons_of_mem _ old)

theorem mem_remove {entry : κ × α} (member : entry ∈ remove key entries) :
    entry ∈ entries ∧ entry.1 ≠ key := by
  simpa [remove] using member

theorem sorted_insert (sorted : Sorted entries) :
    Sorted (insert key value entries) := by
  induction entries with
  | nil => simp [insert, Sorted]
  | cons entry rest ih =>
      obtain ⟨below, sortedRest⟩ := List.pairwise_cons.mp sorted
      obtain ⟨other, old⟩ := entry
      unfold insert
      split
      · rename_i same
        subst same
        exact List.pairwise_cons.mpr ⟨below, sortedRest⟩
      · rename_i different
        split
        · rename_i before
          refine List.pairwise_cons.mpr ⟨?_, sorted⟩
          intro entry member
          rcases List.mem_cons.mp member with same | later
          · simpa [same] using before
          · exact lt_trans before (below entry later)
        · rename_i notBefore
          refine List.pairwise_cons.mpr ⟨?_, ih sortedRest⟩
          intro entry member
          rcases mem_insert member with new | old
          · rw [new]
            exact lt_of_le_of_ne (not_lt.mp notBefore) (Ne.symm different)
          · exact below entry old

theorem sorted_remove (sorted : Sorted entries) :
    Sorted (remove key entries) :=
  sorted.filter _

/-- Values may change and entries may go. -/
theorem sorted_filterMap (sorted : Sorted entries)
    (change : κ × α → Option (κ × β))
    (keeps : ∀ {entry changed}, change entry = some changed →
      changed.1 = entry.1) :
    Sorted (entries.filterMap change) := by
  refine List.Pairwise.filterMap change ?_ sorted
  intro first second before changed found other otherFound
  rw [keeps found, keeps otherFound]
  exact before

end Telekio.Keyed
