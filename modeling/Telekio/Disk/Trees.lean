import Telekio.Disk.Frames

/-!
# Trees of directories

In a tree every entry is in a directory. Directories that are there are not
made again, so that the first change of a run that makes directories is the
first one that is missing.
-/

namespace Telekio.Disk

/-- What there is is in a directory. -/
def Tree (files : Files) : Prop :=
  ∀ path name, entryAt files (path ++ [name]) ≠ none →
    entryAt files path = some .directory

variable {files : Files} {path : Path} {name : String} {entry : Entry}

theorem Tree.rooted (tree : Tree files)
    (there : entryAt files path = some .directory) : Rooted files path := by
  induction path using List.reverseRecOn with
  | nil => exact Rooted.nil files
  | append_singleton path name ih =>
      have inside : entryAt files path = some .directory :=
        tree path name (by rw [there]; simp)
      exact (ih inside).snoc there

theorem Tree.vacantBelow (tree : Tree files)
    (absent : entryAt files path = none) : VacantBelow files path := by
  rintro below ⟨rest, rfl⟩
  induction rest using List.reverseRecOn with
  | nil => rwa [List.append_nil]
  | append_singleton rest name ih =>
      by_contra present
      rw [← List.append_assoc] at present
      rw [tree _ name present] at ih
      cases ih

/-- One entry at the top is a tree. -/
theorem tree_singleton : Tree [([name], entry)] := by
  intro parent child present
  rw [entryAt, if_neg (by simp), List.lookup_cons] at present
  split at present
  · rename_i same
    obtain ⟨rfl, -⟩ := List.append_inj' (beq_iff_eq.mp same :
      parent ++ [child] = [] ++ [name]) rfl
    rfl
  · simp at present

theorem Tree.present_of_prefix {below : Path} (tree : Tree files)
    (inside : path <+: below) (present : entryAt files below ≠ none) :
    entryAt files path ≠ none :=
  fun absent => present (tree.vacantBelow absent below inside)

/-- There is nothing below what is no directory. -/
theorem Tree.nil_of_present {rest : Path} (tree : Tree files)
    (file : entryAt files path ≠ some .directory)
    (present : entryAt files (path ++ rest) ≠ none) : rest = [] := by
  cases rest using List.reverseRecOn with
  | nil => rfl
  | append_singleton rest name =>
      rw [← List.append_assoc] at present
      have rooted := tree.rooted (tree _ _ present)
      exact absurd (rooted _ (List.prefix_append _ _)) file

theorem Tree.put_directory (tree : Tree files)
    (inside : entryAt files path = some .directory) :
    Tree (put (path ++ [name]) .directory files) := by
  intro parent child present
  have proper : path ++ [name] ≠ [] := by simp
  rw [entryAt_put proper] at present ⊢
  split
  · rfl
  · split at present
    · rename_i same
      obtain ⟨rfl, -⟩ := List.append_inj' same rfl
      exact inside
    · exact tree parent child present

/-- The next change meets a fault. -/
def Faulty (faults : List (Option Fault)) : Prop :=
  ∃ fault later, faults = some fault :: later

variable {faults : List (Option Fault)}

theorem mkdir_of_faulty (faulty : Faulty faults) :
    Effect.mkdir path ⟨files, faults⟩ = .error .io ⟨files, faults.tail⟩ := by
  obtain ⟨fault, later, rfl⟩ := faulty
  rfl

theorem mkdir_of_vacant (healthy : ¬ Faulty faults)
    (free : vacant files path = true) :
    Effect.mkdir path ⟨files, faults⟩ =
      .ok () ⟨put path .directory files, faults.tail⟩ := by
  simp only [Effect.mkdir, Effect.change]
  split
  · exact absurd ⟨_, _, rfl⟩ healthy
  · rw [if_pos free]

theorem ensureDirectory_of_present
    (there : entryAt files path = some .directory) :
    Effect.ensureDirectory path ⟨files, faults⟩ =
      .ok () ⟨files, faults⟩ := by
  simp only [Effect.ensureDirectory, Bind.bind, EStateM.bind, Effect.query,
    isDirectory_iff.mpr there]
  rfl

theorem ensureDirectory_of_absent (absent : entryAt files path = none) :
    Effect.ensureDirectory path ⟨files, faults⟩ =
      Effect.mkdir path ⟨files, faults⟩ := by
  have missing : isDirectory files path = false := by
    simp [isDirectory, absent]
  simp only [Effect.ensureDirectory, Bind.bind, EStateM.bind, Effect.query,
    missing]
  rfl

theorem ensureDirectory_of_faulty (faulty : Faulty faults)
    (absent : entryAt files path = none) :
    Effect.ensureDirectory path ⟨files, faults⟩ =
      .error .io ⟨files, faults.tail⟩ := by
  rw [ensureDirectory_of_absent absent, mkdir_of_faulty faulty]

theorem ensureDirectory_of_vacant (healthy : ¬ Faulty faults)
    (there : entryAt files path = some .directory)
    (absent : entryAt files (path ++ [name]) = none) :
    Effect.ensureDirectory (path ++ [name]) ⟨files, faults⟩ =
      .ok () ⟨put (path ++ [name]) .directory files, faults.tail⟩ := by
  have free : vacant files (path ++ [name]) = true := by
    simp [vacant, isDirectory, there, absent]
  rw [ensureDirectory_of_absent absent, mkdir_of_vacant healthy free]

theorem createDirectories_append {parent first second : Path} :
    Effect.createDirectories parent (first ++ second) =
      (Effect.createDirectories parent first >>= fun _ =>
        Effect.createDirectories (parent ++ first) second) := by
  induction first generalizing parent with
  | nil => simp [Effect.createDirectories]
  | cons name rest ih =>
      simp only [List.cons_append, Effect.createDirectories, ih, bind_assoc,
        List.append_assoc, List.nil_append]

theorem createDirectories_of_rooted {parent names : Path}
    (rooted : Rooted files (parent ++ names)) :
    Effect.createDirectories parent names ⟨files, faults⟩ =
      .ok () ⟨files, faults⟩ := by
  induction names generalizing parent with
  | nil => rfl
  | cons name rest ih =>
      have split : parent ++ name :: rest = parent ++ [name] ++ rest := by
        simp
      rw [split] at rooted
      have there := rooted _ (List.prefix_append (parent ++ [name]) rest)
      simp only [Effect.createDirectories, Bind.bind, EStateM.bind,
        ensureDirectory_of_present there]
      exact ih rooted

theorem createDirectories_pair {first second : String} :
    Effect.createDirectories path [first, second] =
      (Effect.ensureDirectory (path ++ [first]) >>= fun _ =>
        Effect.ensureDirectory (path ++ [first] ++ [second])) := by
  simp only [Effect.createDirectories, bind_pure_unit]

/-- What is above is there already. -/
theorem createDirAll_append {rest : Path} (rooted : Rooted files path) :
    Effect.createDirAll (path ++ rest) ⟨files, faults⟩ =
      Effect.createDirectories path rest ⟨files, faults⟩ := by
  have whole : Rooted files ([] ++ path) := rooted
  rw [Effect.createDirAll, createDirectories_append]
  simp only [Bind.bind, EStateM.bind, createDirectories_of_rooted whole,
    List.nil_append]

end Telekio.Disk
