import Mathlib.Data.List.AList

/-!
# Tables with numeric keys

Association lists from numbers, with the operations of a mutable hash map
that `AList` does not name: the values, an emptiness test, and assignment
through a reference to an existing entry.
-/

namespace Telekio.Interleave

universe u

/-- A finite map from numbers. -/
abbrev Table (α : Type u) : Type u :=
  AList (fun _ : Nat => α)

namespace Table

variable {α : Type u}

/-- The values of a table, in the order the table happens to hold them. -/
def values (table : Table α) : List α :=
  table.entries.map Sigma.snd

def isEmpty (table : Table α) : Bool :=
  table.entries.isEmpty

/-- Assign to the entry of a key that is present. -/
def assign (key : Nat) (value : α) (table : Table α) : Table α :=
  if key ∈ table then table.insert key value else table

theorem mem_values {table : Table α} {value : α} :
    value ∈ table.values ↔ ∃ key, table.lookup key = some value := by
  constructor
  · intro member
    obtain ⟨entry, inEntries, rfl⟩ := List.mem_map.mp member
    exact ⟨entry.1, AList.mem_lookup_iff.mpr inEntries⟩
  · rintro ⟨key, found⟩
    exact List.mem_map.mpr
      ⟨⟨key, value⟩, AList.mem_lookup_iff.mp found, rfl⟩

theorem isEmpty_iff {table : Table α} :
    table.isEmpty = true ↔ ∀ key, table.lookup key = none := by
  rw [isEmpty, List.isEmpty_iff]
  constructor
  · intro empty key
    rw [AList.lookup_eq_none, AList.mem_keys, AList.keys, empty]
    exact List.not_mem_nil
  · intro absent
    rw [List.eq_nil_iff_forall_not_mem]
    intro entry member
    have found : table.lookup entry.1 = some entry.2 :=
      AList.mem_lookup_iff.mpr member
    rw [absent entry.1] at found
    cases found

theorem lookup_insert_eq (key other : Nat) (value : α)
    (table : Table α) :
    (table.insert key value).lookup other =
      if other = key then some value else table.lookup other := by
  by_cases same : other = key
  · subst same
    simp
  · rw [if_neg same, AList.lookup_insert_ne same]

theorem lookup_erase_eq (key other : Nat) (table : Table α) :
    (table.erase key).lookup other =
      if other = key then none else table.lookup other := by
  by_cases same : other = key
  · subst same
    simp
  · rw [if_neg same, AList.lookup_erase_ne same]

theorem lookup_assign_eq (key other : Nat) (value : α)
    (table : Table α) :
    (table.assign key value).lookup other =
      if other = key ∧ (table.lookup key).isSome then some value
      else table.lookup other := by
  unfold assign
  by_cases present : key ∈ table
  · rw [if_pos present, lookup_insert_eq]
    simp [AList.lookup_isSome, present]
  · rw [if_neg present, if_neg]
    rw [AList.lookup_isSome]
    exact fun both => present both.2

end Table

end Telekio.Interleave
