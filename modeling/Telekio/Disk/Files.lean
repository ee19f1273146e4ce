import Mathlib.Data.List.Infix
import Mathlib.Data.String.Basic

/-!
# Files and directories

A file system as a list of what there is at each path. An entry that comes
earlier hides later ones of its path.
-/

namespace Telekio.Disk

abbrev Path := List String

inductive Entry where
  | file (contents : ByteArray)
  | directory

instance : DecidableEq Entry
  | .file first, .file second =>
      @decidable_of_iff _ (first = second) (by simp)
        (ByteArray.instDecidableEq first second)
  | .file _, .directory => isFalse fun same => Entry.noConfusion same
  | .directory, .file _ => isFalse fun same => Entry.noConfusion same
  | .directory, .directory => isTrue rfl

abbrev Files := List (Path × Entry)

/-- What is at a path; the root is always there. -/
def entryAt (files : Files) (path : Path) : Option Entry :=
  if path = [] then some .directory else files.lookup path

def isFile (files : Files) (path : Path) : Bool :=
  match entryAt files path with
  | some (.file _) => true
  | _ => false

def isDirectory (files : Files) (path : Path) : Bool :=
  entryAt files path = some .directory

def readText (files : Files) (path : Path) : Option String :=
  match entryAt files path with
  | some (.file contents) => String.fromUTF8? contents
  | _ => none

/-- The names in a directory, once for each entry. -/
def names (files : Files) (directory : Path) : List String :=
  files.filterMap fun entry =>
    if entry.1.dropLast = directory then entry.1.getLast? else none

def put (path : Path) (entry : Entry) (files : Files) : Files :=
  (path, entry) :: files

/-- Everything at a path and below it goes. -/
def removeTree (path : Path) (files : Files) : Files :=
  files.filter fun entry => ¬ path <+: entry.1

/-- A path at which a file can be written. -/
def writable (files : Files) (path : Path) : Bool :=
  isDirectory files path.dropLast && !isDirectory files path

/-- A path at which a directory can be made. -/
def vacant (files : Files) (path : Path) : Bool :=
  isDirectory files path.dropLast && (entryAt files path).isNone

variable {files : Files} {path other : Path} {entry found : Entry}

theorem entryAt_put (proper : path ≠ []) :
    entryAt (put path entry files) other =
      if other = path then some entry else entryAt files other := by
  unfold entryAt put
  rw [List.lookup_cons]
  by_cases same : other = path
  · subst same
    simp [proper]
  · rw [beq_eq_false_iff_ne.mpr same, if_neg same]

theorem entryAt_put_self (proper : path ≠ []) :
    entryAt (put path entry files) path = some entry := by
  rw [entryAt_put proper, if_pos rfl]

theorem entryAt_put_of_ne (different : other ≠ path) :
    entryAt (put path entry files) other = entryAt files other := by
  unfold entryAt put
  rw [List.lookup_cons, beq_eq_false_iff_ne.mpr different]

theorem lookup_filter {keep : Path × Entry → Bool}
    (uniform : ∀ entry, keep (other, entry) = true) :
    (files.filter keep).lookup other = files.lookup other := by
  induction files with
  | nil => rfl
  | cons first rest ih =>
      obtain ⟨path, entry⟩ := first
      by_cases same : other = path
      · subst same
        rw [List.filter_cons_of_pos (uniform entry), List.lookup_cons,
          List.lookup_cons, beq_self_eq_true]
      · rw [List.lookup_cons, beq_eq_false_iff_ne.mpr same, ← ih]
        by_cases kept : keep (path, entry) = true
        · rw [List.filter_cons_of_pos kept, List.lookup_cons,
            beq_eq_false_iff_ne.mpr same]
        · rw [List.filter_cons_of_neg kept]

theorem lookup_filter_eq_none {keep : Path × Entry → Bool}
    (dropped : ∀ entry, keep (other, entry) = false) :
    (files.filter keep).lookup other = none := by
  induction files with
  | nil => rfl
  | cons first rest ih =>
      obtain ⟨path, entry⟩ := first
      by_cases kept : keep (path, entry) = true
      · have different : other ≠ path := by
          rintro rfl
          rw [dropped entry] at kept
          cases kept
        rw [List.filter_cons_of_pos kept, List.lookup_cons,
          beq_eq_false_iff_ne.mpr different, ih]
      · rw [List.filter_cons_of_neg kept, ih]

theorem entryAt_removeTree_of_not (outside : ¬ path <+: other) :
    entryAt (removeTree path files) other = entryAt files other := by
  unfold entryAt removeTree
  rw [lookup_filter fun entry => by simpa using outside]

theorem entryAt_removeTree (proper : path ≠ []) (inside : path <+: other) :
    entryAt (removeTree path files) other = none := by
  have otherProper : other ≠ [] := by
    rintro rfl
    exact proper (List.prefix_nil.mp inside)
  unfold entryAt removeTree
  rw [if_neg otherProper, lookup_filter_eq_none fun entry => by
    simpa using inside]

theorem mem_names {name : String} {directory : Path}
    (present : entryAt files (directory ++ [name]) = some found) :
    name ∈ names files directory := by
  unfold entryAt at present
  rw [if_neg (by simp)] at present
  induction files with
  | nil => cases present
  | cons first rest ih =>
      obtain ⟨path, entry⟩ := first
      rw [List.lookup_cons] at present
      by_cases same : directory ++ [name] = path
      · subst same
        simp [names]
      · rw [beq_eq_false_iff_ne.mpr same] at present
        have later := ih present
        unfold names at later ⊢
        rw [List.filterMap_cons]
        split
        · exact later
        · exact List.mem_cons_of_mem _ later

theorem mem_names_of_present {name : String} {directory : Path}
    (present : entryAt files (directory ++ [name]) ≠ none) :
    name ∈ names files directory := by
  obtain ⟨found, there⟩ := Option.ne_none_iff_exists'.mp present
  exact mem_names there

theorem present_of_mem_names {name : String} {directory : Path}
    (member : name ∈ names files directory) :
    entryAt files (directory ++ [name]) ≠ none := by
  obtain ⟨⟨path, entry⟩, listed, named⟩ := List.mem_filterMap.mp member
  split at named
  · rename_i inside
    have whole : directory ++ [name] = path := by
      rw [← inside]
      exact List.dropLast_append_getLast? name named
    rw [entryAt, if_neg (by simp), whole, ← Option.isSome_iff_ne_none,
      List.lookup_isSome_iff]
    exact ⟨_, listed, beq_self_eq_true path⟩
  · cases named

theorem isFile_iff : isFile files path = true ↔
    ∃ contents, entryAt files path = some (.file contents) := by
  unfold isFile
  split
  · rename_i contents found
    simp [found]
  · rename_i noFile
    simpa using noFile

theorem isFile_congr {after : Files}
    (same : entryAt after path = entryAt files path) :
    isFile after path = isFile files path := by
  simp only [isFile, same]

theorem readText_congr {after : Files}
    (same : entryAt after path = entryAt files path) :
    readText after path = readText files path := by
  simp only [readText, same]

theorem isDirectory_iff : isDirectory files path = true ↔
    entryAt files path = some .directory :=
  decide_eq_true_iff

theorem fromUTF8_toUTF8 (text : String) :
    String.fromUTF8? text.toUTF8 = some text := by
  have valid : text.toUTF8.IsValidUTF8 := text.isValidUTF8
  rw [String.fromUTF8?, dif_pos valid]
  rfl

theorem readText_eq {text : String}
    (present : entryAt files path = some (.file text.toUTF8)) :
    readText files path = some text := by
  rw [readText, present]
  exact fromUTF8_toUTF8 text

end Telekio.Disk
