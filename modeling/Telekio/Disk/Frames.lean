import Telekio.Disk.Effects

/-!
# What the changes leave alone, and what they do

For each change of a file system: that entries outside a region stay as they
are, whether it works or not, what is there when it has worked, and when it
works.
-/

namespace Telekio.Disk

/-- Outside a region the files are as they were. -/
def AgreeOutside (region : Path → Prop) (base files : Files) : Prop :=
  ∀ path, ¬ region path → entryAt files path = entryAt base path

variable {α β : Type} {region larger : Path → Prop} {base : Files}
variable {path other : Path} {contents : ByteArray} {entry : Entry}

theorem AgreeOutside.refl (region : Path → Prop) (base : Files) :
    AgreeOutside region base base :=
  fun _ _ => rfl

theorem AgreeOutside.put {files : Files}
    (agree : AgreeOutside region base files) (inside : region path) :
    AgreeOutside region base (put path entry files) := by
  intro other outside
  have different : other ≠ path := by
    rintro rfl
    exact outside inside
  rw [entryAt_put_of_ne different]
  exact agree other outside

theorem AgreeOutside.filter {files : Files} {keep : Path × Entry → Bool}
    (agree : AgreeOutside region base files)
    (inside : ∀ entry, keep entry = false → region entry.1) :
    AgreeOutside region base (files.filter keep) := by
  intro other outside
  rw [← agree other outside]
  unfold entryAt
  rw [lookup_filter]
  intro entry
  by_contra dropped
  exact outside (inside (other, entry) (by simpa using dropped))

namespace Preserves

variable {condition : Files → Prop}

theorem bind {program : Effect α} {next : α → Effect β}
    (first : Preserves condition program)
    (second : ∀ value, Preserves condition (next value)) :
    Preserves condition (program >>= next) :=
  Triple.bind first second

theorem pure (value : α) : Preserves condition (Pure.pure value) :=
  Triple.pure fun _ => id

theorem throw (error : Error) :
    Preserves condition (throw error : Effect α) :=
  Triple.throw fun _ => id

theorem query (ask : Files → α) : Preserves condition (Effect.query ask) :=
  Triple.query fun _ => id

theorem okOr (found : Option α) (error : Error) :
    Preserves condition (Effect.okOr found error) :=
  Triple.okOr (fun _ _ _ => id) fun _ _ => id

theorem okOr_bind {found : Option α} {error : Error} {next : α → Effect β}
    (each : ∀ value, found = some value → Preserves condition (next value)) :
    Preserves condition (Effect.okOr found error >>= next) := by
  cases found with
  | none => exact fun _ holds => holds
  | some value => exact each value rfl

theorem readToString (path : Path) :
    Preserves condition (Effect.readToString path) :=
  bind (query _) fun _ => okOr _ _

theorem ite {choice : Prop} [Decidable choice] {first second : Effect α}
    (yes : Preserves condition first) (no : Preserves condition second) :
    Preserves condition (if choice then first else second) := by
  split
  · exact yes
  · exact no

theorem forall_ {ι : Sort*} {conditions : ι → Files → Prop}
    {program : Effect α}
    (each : ∀ index, Preserves (conditions index) program) :
    Preserves (fun files => ∀ index, conditions index files) program := by
  intro world holds
  have after := fun index => each index world (holds index)
  revert after
  split
  · exact id
  · exact id

theorem change {error : Error} {fails : Fault → Files → Files}
    {works : Files → Option Files}
    (failing : ∀ fault files, condition files → condition (fails fault files))
    (working : ∀ files changed, condition files →
      works files = some changed → condition changed) :
    Preserves condition (Effect.change error fails works) :=
  Triple.change failing working fun _ holds _ => holds

/-- What a program leaves as it was may be left out of its region. -/
theorem narrow {program : Effect α}
    (large : ∀ base, Preserves (AgreeOutside larger base) program)
    (keeps : ∀ path, larger path → ¬ region path → ∃ entry,
      entryAt base path = some entry ∧
        Preserves (fun files => entryAt files path = some entry) program) :
    Preserves (AgreeOutside region base) program := by
  intro world agree
  have narrowed : ∀ {left},
      AgreeOutside larger world.files left →
      (∀ path entry, Preserves
        (fun files => entryAt files path = some entry) program →
          entryAt world.files path = some entry →
          entryAt left path = some entry) →
      AgreeOutside region base left := by
    intro left same stays path outside
    by_cases inside : larger path
    · obtain ⟨entry, there, kept⟩ := keeps path inside outside
      rw [there]
      exact stays path entry kept ((agree path outside).trans there)
    · exact (same path inside).trans (agree path outside)
  cases ran : program world with
  | ok value left =>
      exact narrowed ((large world.files).returned ran (.refl _ _))
        fun path entry kept there => kept.returned ran there
  | error error left =>
      exact narrowed ((large world.files).stopped ran (.refl _ _))
        fun path entry kept there => kept.stopped ran there

/-- What changes nothing outside a region changes nothing outside a larger
one. -/
theorem widen {program : Effect α}
    (small : ∀ base, Preserves (AgreeOutside region base) program)
    (within : ∀ path, region path → larger path) :
    Preserves (AgreeOutside larger base) program := by
  intro world agree
  have after := small world.files world (.refl _ _)
  have further : ∀ {left}, AgreeOutside region world.files left →
      AgreeOutside larger base left :=
    fun same path outside =>
      (same path fun inside => outside (within path inside)).trans
        (agree path outside)
  revert after
  split
  · exact further
  · exact further

end Preserves

theorem preserves_mkdir (inside : region path) :
    Preserves (AgreeOutside region base) (Effect.mkdir path) := by
  refine .change (fun _ _ agree => agree) fun files changed agree worked => ?_
  split at worked
  · cases worked
    exact agree.put inside
  · cases worked

theorem preserves_write (inside : region path) :
    Preserves (AgreeOutside region base) (Effect.write path contents) := by
  refine .change (fun fault files agree => ?_)
    fun files changed agree worked => ?_
  · split
    · split
      · exact agree.put inside
      · exact agree
    · exact agree
  · split at worked
    · cases worked
      exact agree.put inside
    · cases worked

theorem preserves_removeDirAll (inside : ∀ below, path <+: below →
      region below) :
    Preserves (AgreeOutside region base) (Effect.removeDirAll path) := by
  refine .change (fun fault files agree => agree.filter ?_)
    fun files changed agree worked => ?_
  · intro entry dropped
    simp only [decide_eq_false_iff_not, not_not] at dropped
    exact inside entry.1 dropped.1
  · split at worked
    · cases worked
      refine agree.filter ?_
      intro entry dropped
      simp only [decide_eq_false_iff_not, not_not] at dropped
      exact inside entry.1 dropped
    · cases worked

/-- Directories that are there are not touched. -/
theorem preserves_ensureDirectory
    (inside : region path ∨ entryAt base path = some .directory) :
    Preserves (AgreeOutside region base) (Effect.ensureDirectory path) := by
  by_cases within : region path
  · exact .bind (.query _) fun present =>
      .ite (.pure ()) (preserves_mkdir within)
  · have present : entryAt base path = some .directory :=
      inside.resolve_left within
    intro world agree
    have there : isDirectory world.files path = true := by
      rw [isDirectory_iff, agree path within, present]
    simp only [Effect.ensureDirectory, Bind.bind, EStateM.bind, Effect.query,
      there]
    exact agree

theorem preserves_createDirectories {parent names : Path}
    (inside : ∀ before name after, names = before ++ name :: after →
      region (parent ++ before ++ [name]) ∨
        entryAt base (parent ++ before ++ [name]) = some .directory) :
    Preserves (AgreeOutside region base)
      (Effect.createDirectories parent names) := by
  induction names generalizing parent with
  | nil => exact .pure ()
  | cons name rest ih =>
      have first := inside [] name rest rfl
      rw [List.append_nil] at first
      refine .bind (preserves_ensureDirectory first) fun _ => ih ?_
      intro before next after split
      have later := inside (name :: before) next after (by simp [split])
      simpa [List.append_assoc] using later

/-- Every directory of the path is in the region or there already. -/
def Anchored (region : Path → Prop) (base : Files) (path : Path) : Prop :=
  ∀ above, above ≠ [] → above <+: path →
    region above ∨ entryAt base above = some .directory

theorem Anchored.snoc {name : String} (anchored : Anchored region base path)
    (inside : region (path ++ [name])) :
    Anchored region base (path ++ [name]) := by
  intro above proper higher
  rcases List.prefix_concat_iff.mp higher with rfl | within
  · exact Or.inl inside
  · exact anchored above proper within

theorem preserves_createDirAll (inside : Anchored region base path) :
    Preserves (AgreeOutside region base) (Effect.createDirAll path) := by
  refine preserves_createDirectories ?_
  intro before name after split
  refine inside _ (by simp) ?_
  exact ⟨after, by simp [split]⟩

theorem keeps_mkdir :
    Preserves (fun files => entryAt files other = some entry)
      (Effect.mkdir path) := by
  refine .change (fun _ _ holds => holds) fun files changed holds worked => ?_
  split at worked
  · rename_i free
    cases worked
    have different : other ≠ path := by
      rintro rfl
      simp [vacant, holds] at free
    rwa [entryAt_put_of_ne different]
  · cases worked

theorem entryAt_put_of_writable {files : Files} {found : Entry}
    (writes : writable files path = true)
    (holds : entryAt files other = some .directory) :
    entryAt (put path found files) other = some .directory := by
  have different : other ≠ path := by
    rintro rfl
    simp [writable, isDirectory, holds] at writes
  rwa [entryAt_put_of_ne different]

theorem keeps_write :
    Preserves (fun files => entryAt files other = some .directory)
      (Effect.write path contents) := by
  refine .change (fun fault files holds => ?_)
    fun files changed holds worked => ?_
  · split
    · split
      · rename_i writes
        exact entryAt_put_of_writable writes holds
      · exact holds
    · exact holds
  · split at worked
    · rename_i writes
      cases worked
      exact entryAt_put_of_writable writes holds
    · cases worked

theorem keeps_removeDirAll (outside : ¬ path <+: other) :
    Preserves (fun files => entryAt files other = some entry)
      (Effect.removeDirAll path) := by
  refine .change (fun fault files holds => ?_)
    fun files changed holds worked => ?_
  · have kept : entryAt (files.filter fun entry =>
        ¬ (path <+: entry.1 ∧ entry.1 ≠ path ∧ entry.1 ∈ fault.removed))
        other = entryAt files other := by
      unfold entryAt
      rw [lookup_filter fun entry => by simp [outside]]
    rwa [kept]
  · split at worked
    · cases worked
      rwa [entryAt_removeTree_of_not outside]
    · cases worked

theorem keeps_ensureDirectory :
    Preserves (fun files => entryAt files other = some entry)
      (Effect.ensureDirectory path) :=
  .bind (.query _) fun _ => .ite (.pure ()) keeps_mkdir

theorem keeps_createDirectories {parent names : Path} :
    Preserves (fun files => entryAt files other = some entry)
      (Effect.createDirectories parent names) := by
  induction names generalizing parent with
  | nil => exact .pure ()
  | cons name rest ih =>
      exact .bind keeps_ensureDirectory fun _ => ih

theorem keeps_createDirAll :
    Preserves (fun files => entryAt files other = some entry)
      (Effect.createDirAll path) :=
  keeps_createDirectories

theorem keeps_write_of_ne (different : other ≠ path) :
    Preserves (fun files => entryAt files other = some entry)
      (Effect.write path contents) := by
  intro world holds
  have agree := @preserves_write (· = path) world.files path contents rfl
    world (AgreeOutside.refl _ _)
  revert agree
  split
  · exact fun agree => (agree other different).trans holds
  · exact fun agree => (agree other different).trans holds

/-- A text that can be read stays where no file is replaced. -/
theorem keeps_readText {program : Effect α} {text : String}
    (keeps : ∀ contents, Preserves
      (fun files => entryAt files other = some (.file contents)) program) :
    Preserves (fun files => readText files other = some text) program := by
  intro world read
  unfold readText at read
  split at read
  · rename_i contents there
    have after := keeps contents world there
    revert after
    split
    · intro after
      simpa only [readText, after] using read
    · intro after
      simpa only [readText, after] using read
  · cases read

/-- Writing makes no directory. -/
theorem keeps_notDirectory :
    Preserves (fun files => entryAt files other ≠ some .directory)
      (Effect.write path contents) := by
  have puts : ∀ {files : Files} {left : ByteArray},
      writable files path = true →
      entryAt files other ≠ some .directory →
      entryAt (put path (.file left) files) other ≠ some .directory := by
    intro files left writes holds
    have proper : path ≠ [] := by
      rintro rfl
      simp [writable, isDirectory, entryAt] at writes
    rw [entryAt_put proper]
    split
    · simp
    · exact holds
  refine .change (fun fault files holds => ?_)
    fun files changed holds worked => ?_
  · split
    · split
      · exact puts ‹_› holds
      · exact holds
    · exact holds
  · split at worked
    · cases worked
      exact puts ‹_› holds
    · cases worked

/-! ## What is there afterwards -/

/-- The path and everything above it are directories. -/
def Rooted (files : Files) (path : Path) : Prop :=
  ∀ above, above <+: path → entryAt files above = some .directory

theorem Rooted.directory {files : Files} (rooted : Rooted files path) :
    entryAt files path = some .directory :=
  rooted path List.prefix_rfl

theorem Rooted.mono {files : Files} (rooted : Rooted files path)
    (above : other <+: path) : Rooted files other :=
  fun _ higher => rooted _ (higher.trans above)

theorem Rooted.nil (files : Files) : Rooted files [] := by
  intro above isNil
  rw [List.prefix_nil.mp isNil, entryAt, if_pos rfl]

theorem Rooted.snoc {files : Files} {name : String}
    (rooted : Rooted files path)
    (there : entryAt files (path ++ [name]) = some .directory) :
    Rooted files (path ++ [name]) := by
  intro above inside
  rcases List.prefix_concat_iff.mp inside with rfl | higher
  · exact there
  · exact rooted above higher

theorem keeps_rooted {program : Effect α}
    (keeps : ∀ above, above <+: path →
      Preserves (fun files => entryAt files above = some .directory)
        program) :
    Preserves (fun files => Rooted files path) program :=
  .forall_ fun above => .forall_ fun inside => keeps above inside

section After

variable {before failed : Files → Prop} {parent names : Path}

theorem after_mkdir (fails : ∀ files, before files → failed files) :
    Triple before (Effect.mkdir path)
      (fun _ files => entryAt files path = some .directory) failed := by
  refine .change (fun _ => fails) (fun files changed _ worked => ?_)
    fun files started _ => fails files started
  split at worked
  · rename_i free
    cases worked
    refine entryAt_put_self ?_
    rintro rfl
    simp [vacant, entryAt] at free
  · cases worked

theorem after_ensureDirectory (fails : ∀ files, before files → failed files) :
    Triple before (Effect.ensureDirectory path)
      (fun _ files => entryAt files path = some .directory) failed := by
  intro world started
  simp only [Effect.ensureDirectory, Bind.bind, EStateM.bind, Effect.query]
  cases present : isDirectory world.files path with
  | true => exact isDirectory_iff.mp present
  | false => exact after_mkdir fails world started

theorem after_createDirectories
    (rooted : ∀ files, before files → Rooted files parent) :
    Triple before (Effect.createDirectories parent names)
      (fun _ files => Rooted files (parent ++ names)) (fun _ => True) := by
  induction names generalizing parent before with
  | nil =>
      refine .pure fun files started => ?_
      rw [List.append_nil]
      exact rooted files started
  | cons name rest ih =>
      have made : Triple before (Effect.ensureDirectory (parent ++ [name]))
          (fun _ files => Rooted files (parent ++ [name]))
          (fun _ => True) := by
        intro world started
        have there := @after_ensureDirectory (parent ++ [name]) before
          (fun _ => True) (fun _ _ => trivial) world started
        have kept := @keeps_rooted _ parent
          (Effect.ensureDirectory (parent ++ [name]))
          (fun _ _ => keeps_ensureDirectory) world
          (rooted world.files started)
        revert there kept
        split
        · exact fun there kept => kept.snoc there
        · exact fun _ _ => trivial
      refine .bind made fun _ => ?_
      have next := @ih (fun files => Rooted files (parent ++ [name]))
        (parent ++ [name]) fun _ => id
      rwa [List.append_assoc, List.singleton_append] at next

theorem after_createDirAll :
    Triple before (Effect.createDirAll path)
      (fun _ files => Rooted files path) (fun _ => True) :=
  after_createDirectories fun files _ => Rooted.nil files

theorem after_write :
    Triple before (Effect.write path contents)
      (fun _ files => entryAt files path = some (.file contents))
      (fun _ => True) := by
  refine .change (fun _ _ _ => trivial) (fun files changed _ worked => ?_)
    fun _ _ _ => trivial
  split at worked
  · rename_i writes
    cases worked
    refine entryAt_put_self ?_
    rintro rfl
    simp [writable, isDirectory, entryAt] at writes
  · cases worked

theorem after_removeDirAll :
    Triple before (Effect.removeDirAll path)
      (fun _ files => ∀ below, path <+: below → entryAt files below = none)
      (fun _ => True) := by
  refine .change (fun _ _ _ => trivial) (fun files changed _ worked => ?_)
    fun _ _ _ => trivial
  split at worked
  · rename_i there
    cases worked
    intro below inside
    exact entryAt_removeTree there.1 inside
  · cases worked

/-- A removal that fails leaves the directory. -/
theorem stays_removeDirAll :
    Triple (fun files => entryAt files path = some .directory)
      (Effect.removeDirAll path) (fun _ _ => True)
      (fun files => entryAt files path = some .directory) := by
  refine .change (fun fault files holds => ?_) (fun _ _ _ _ => trivial)
    fun _ holds _ => holds
  have kept : entryAt (files.filter fun entry =>
      ¬ (path <+: entry.1 ∧ entry.1 ≠ path ∧ entry.1 ∈ fault.removed))
      path = entryAt files path := by
    unfold entryAt
    rw [lookup_filter fun entry => by simp]
  rwa [kept]

end After

/-- What does not depend on the region stays. -/
theorem Triple.of_agree {start condition : Files → Prop} {program : Effect α}
    (agree : ∀ base, start base →
      Preserves (AgreeOutside region base) program)
    (stable : ∀ {base files}, AgreeOutside region base files →
      condition base → condition files) :
    Triple (fun files => start files ∧ condition files) program
      (fun _ => condition) condition := by
  intro world ⟨started, holds⟩
  have after := agree world.files started world (.refl _ _)
  revert after
  split
  · exact fun after => stable after holds
  · exact fun after => stable after holds

/-- There is nothing at the path or below it. -/
def VacantBelow (files : Files) (path : Path) : Prop :=
  ∀ below, path <+: below → entryAt files below = none

theorem VacantBelow.mono {files : Files} (vacant : VacantBelow files path)
    (inside : path <+: other) : VacantBelow files other :=
  fun below under => vacant below (inside.trans under)

theorem VacantBelow.of_agree {files : Files}
    (agree : AgreeOutside region base files)
    (outside : ∀ below, path <+: below → ¬ region below)
    (vacant : VacantBelow base path) : VacantBelow files path := by
  intro below inside
  rw [agree below (outside below inside), vacant below inside]

theorem keeps_vacantBelow (outside : ¬ path <+: other) :
    Preserves (fun files => VacantBelow files path)
      (Effect.write other contents) := by
  have framed : Triple (fun files => True ∧ VacantBelow files path)
      (Effect.write other contents)
      (fun _ files => VacantBelow files path)
      (fun files => VacantBelow files path) := by
    refine Triple.of_agree
      (fun base _ => @preserves_write (· = other) base other contents rfl)
      fun agree vacant => vacant.of_agree agree ?_
    rintro below inside rfl
    exact outside inside
  exact framed.consequence (fun _ vacant => ⟨True.intro, vacant⟩)
    (fun _ _ => id) fun _ => id

/-- Making directories changes nothing but what is above. -/
theorem preserves_above :
    Preserves (AgreeOutside (· <+: other) base) (Effect.createDirAll other) :=
  preserves_createDirAll fun _ _ inside => Or.inl inside

theorem keeps_vacantBelow_createDirAll (outside : ¬ path <+: other) :
    Preserves (fun files => VacantBelow files path)
      (Effect.createDirAll other) := by
  have framed : Triple (fun files => True ∧ VacantBelow files path)
      (Effect.createDirAll other) (fun _ files => VacantBelow files path)
      (fun files => VacantBelow files path) := by
    refine Triple.of_agree (fun base _ => preserves_above)
      fun agree vacant => vacant.of_agree agree ?_
    exact fun below inside higher => outside (inside.trans higher)
  exact framed.consequence (fun _ vacant => ⟨True.intro, vacant⟩)
    (fun _ _ => id) fun _ => id

theorem Rooted.anchored (rooted : Rooted base path) :
    Anchored region base path :=
  fun above _ inside => Or.inr (rooted above inside)

theorem succeeds_mkdir :
    Succeeds (fun files => vacant files path = true) (Effect.mkdir path)
      (fun _ _ => True) :=
  .change fun _ free => ⟨_, if_pos free, trivial⟩

/-- Each directory is there or can be made. -/
def Creatable (files : Files) (path : Path) : Prop :=
  ∀ above, above <+: path →
    entryAt files above = none ∨ entryAt files above = some .directory

theorem keeps_creatable :
    Preserves (fun files => Creatable files path)
      (Effect.ensureDirectory other) := by
  refine .bind (.query _) fun _ => .ite (.pure ()) ?_
  refine .change (fun _ _ holds => holds) fun files changed holds worked => ?_
  split at worked
  · rename_i free
    cases worked
    have proper : other ≠ [] := by
      rintro rfl
      simp [vacant, entryAt] at free
    intro above inside
    rw [entryAt_put proper]
    split
    · exact Or.inr rfl
    · exact holds above inside
  · cases worked

theorem succeeds_ensureDirectory {name : String} :
    Succeeds (fun files => Rooted files path ∧
        (entryAt files (path ++ [name]) = none ∨
          entryAt files (path ++ [name]) = some .directory))
      (Effect.ensureDirectory (path ++ [name]))
      (fun _ files => Rooted files (path ++ [name])) := by
  intro files ⟨rooted, free⟩
  simp only [Effect.ensureDirectory, Bind.bind, EStateM.bind, Effect.query]
  rcases free with absent | present
  · have missing : isDirectory files (path ++ [name]) = false := by
      simp [isDirectory, absent]
    have isVacant : vacant files (path ++ [name]) = true := by
      simp [vacant, isDirectory, rooted.directory, absent]
    obtain ⟨_, left, ran, -⟩ := succeeds_mkdir files isVacant
    have there := @after_mkdir (path ++ [name]) (fun _ => True)
      (fun _ => True) (fun _ _ => trivial) ⟨files, []⟩ trivial
    have kept := @keeps_rooted _ path (Effect.mkdir (path ++ [name]))
      (fun _ _ => keeps_mkdir) ⟨files, []⟩ rooted
    rw [ran] at there kept
    rw [missing]
    exact ⟨_, left, ran, kept.snoc there⟩
  · rw [isDirectory_iff.mpr present]
    exact ⟨(), files, rfl, rooted.snoc present⟩

theorem succeeds_createDirectories {parent names : Path} :
    Succeeds (fun files => Rooted files parent ∧
        Creatable files (parent ++ names))
      (Effect.createDirectories parent names)
      (fun _ files => Rooted files (parent ++ names)) := by
  induction names generalizing parent with
  | nil =>
      refine .pure fun files started => ?_
      rw [List.append_nil]
      exact started.1
  | cons name rest ih =>
      have split : parent ++ name :: rest = (parent ++ [name]) ++ rest := by
        rw [List.append_assoc, List.singleton_append]
      rw [split]
      refine .bind ?_ fun _ => ih
      refine (succeeds_ensureDirectory.consequence ?_ fun _ _ => id).of_triple
        (keeps_creatable.consequence (fun files started => ?_)
          (fun _ _ => id) (fun _ _ => trivial))
      · intro files ⟨rooted, creatable⟩
        exact ⟨rooted, creatable _ ⟨rest, rfl⟩⟩
      · exact started.2

theorem succeeds_createDirAll :
    Succeeds (fun files => Creatable files path) (Effect.createDirAll path)
      (fun _ files => Rooted files path) :=
  succeeds_createDirectories.consequence
    (fun files creatable => ⟨Rooted.nil files, creatable⟩) fun _ _ => id

theorem succeeds_write :
    Succeeds (fun files => writable files path = true)
      (Effect.write path contents) (fun _ _ => True) :=
  .change fun _ writes => ⟨_, if_pos writes, trivial⟩

theorem succeeds_removeDirAll (proper : path ≠ []) :
    Succeeds (fun files => entryAt files path = some .directory)
      (Effect.removeDirAll path) (fun _ _ => True) :=
  .change fun _ there =>
    ⟨_, if_pos ⟨proper, isDirectory_iff.mpr there⟩, trivial⟩

end Telekio.Disk
