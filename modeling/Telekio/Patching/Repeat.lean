import Telekio.Patching.Project

/-!
# Patching a project again

What a preparation that fails leaves in `.telekio`. Once there is a directory
for the source cache, it stays, and the next `init` refuses it; before that
there is nothing that it does not take.
-/

namespace Telekio.Patching

open Telekio.Disk
open Telekio.Toml

variable {json layout : Type} {editor : Editor layout} {tools : Tools json}
variable {cargo : Cargo json} {document changed : Document layout}
variable {source dependency role : Role} {above root : Path} {files : Files}
variable {selected : Package json} {entries : List (String × Node)}
variable {table original : Table} {preamble : String}

/-- The state of a project passes the checks of `init`. -/
structure Accepts (editor : Editor layout) (root : Path)
    (document : Document layout) (files : Files) : Prop where
  manifest : ∃ text, readText files (manifestPath root) = some text ∧
    editor.parse text = some document
  own : foreignPatch document = false
  destination : validateDestination (directoryOf root) files = .ok ()

theorem not_directory_of_readText {path : Path}
    (read : ∃ text, readText files path = some text) :
    entryAt files path ≠ some .directory := by
  obtain ⟨text, read⟩ := read
  intro there
  rw [readText, there] at read
  cases read

theorem present_of_readText {path : Path} {text : String}
    (read : readText files path = some text) : entryAt files path ≠ none := by
  intro absent
  rw [readText, absent] at read
  cases read

theorem Accepts.rooted (accepts : Accepts editor root document files)
    (tree : Tree files) : Rooted files root := by
  obtain ⟨text, read, -⟩ := accepts.manifest
  exact tree.rooted (tree root "Cargo.toml" (present_of_readText read))

theorem telekio_of_valid
    (valid : validateDestination (directoryOf root) files = .ok ()) :
    entryAt files (telekioOf root) = none ∨
      entryAt files (telekioOf root) = some .directory := by
  rcases (validateDestination_eq_ok.mp valid).1 with absent | parent
  · exact Or.inl absent
  · exact Or.inr (validateNames_eq_ok.mp parent).1

theorem cache_of_valid (tree : Tree files)
    (valid : validateDestination (directoryOf root) files = .ok ()) :
    entryAt files (cacheOf (telekioOf root)) = none := by
  rcases (validateDestination_eq_ok.mp valid).1 with absent | parent
  · exact tree.vacantBelow absent _ (List.prefix_append _ _)
  · by_contra present
    obtain ⟨entry, there⟩ := Option.ne_none_iff_exists'.mp present
    have allowed :=
      (validateNames_eq_ok.mp parent).2 "source" (mem_names there)
    simp at allowed

/-- There is no cache, and room for one. -/
theorem fresh_of_valid (tree : Tree files) (rooted : Rooted files root)
    (valid : validateDestination (directoryOf root) files = .ok ()) :
    Fresh (cacheOf (telekioOf root)) files where
  creatable := by
    intro higher inside
    rcases List.prefix_concat_iff.mp inside with rfl | inside
    · exact Or.inl (cache_of_valid tree valid)
    · rcases List.prefix_concat_iff.mp inside with rfl | inside
      · exact telekio_of_valid valid
      · exact Or.inr (rooted higher inside)
  vacant := tree.vacantBelow (cache_of_valid tree valid)

/-- There is room for the patch. -/
theorem patchable_of_valid (tree : Tree files) (rooted : Rooted files root)
    (valid : validateDestination (directoryOf root) files = .ok ()) :
    Patchable (directoryOf root) files := by
  have telekio := telekio_of_valid valid
  rcases (validateDestination_eq_ok.mp valid).2 with absent | patch
  · have vacant := tree.vacantBelow absent
    refine ⟨?_, ?_, ?_, ?_⟩
    · intro higher inside
      rcases List.prefix_concat_iff.mp inside with rfl | inside
      · exact Or.inl (vacant _ (List.prefix_append _ _))
      · rcases List.prefix_concat_iff.mp inside with rfl | inside
        · exact Or.inl absent
        · rcases List.prefix_concat_iff.mp inside with rfl | inside
          · exact telekio
          · exact Or.inr (rooted higher inside)
    · rw [vacant (manifestPath _) (List.prefix_append _ _)]
      simp
    · rw [vacant (buildPath _) (List.prefix_append _ _)]
      simp
    · rw [vacant (libPath _) (List.prefix_append _ _)]
      simp
  · obtain ⟨-, src, manifest, build, lib⟩ := validatePatch_eq_ok patch
    refine ⟨fun higher inside => Or.inr (tree.rooted src higher inside), ?_,
      ?_, ?_⟩
    · exact not_directory_of_readText manifest
    · exact not_directory_of_readText build
    · exact not_directory_of_readText lib

section Frames

variable {base : Files} {other : Path}

theorem regeneratePatch_patchOf :
    regeneratePatch tools cargo (patchOf above) source dependency =
      (prepareTokioIn cargo (cacheOf above) >>= fun found =>
        writePatch tools (patchOf above) found.1 found.2 source dependency
          >>= fun _ => Effect.removeDirAll (cacheOf above)) := by
  rw [regeneratePatch, parent_patchOf]
  rfl

theorem preserves_writePatch {features : json} {path : Path} :
    Preserves (AgreeOutside (Along (patchOf above)) base)
      (writePatch tools (patchOf above) path features source dependency) := by
  have inside : ∀ {rest}, Along (patchOf above) (patchOf above ++ rest) :=
    Or.inl (List.prefix_append _ _)
  exact .bind (preserves_createDirAll inside.anchored) fun _ =>
    .bind preserves_generateTexts fun _ =>
      .bind (preserves_write inside) fun _ =>
        .bind (preserves_write inside) fun _ =>
          .bind (.okOr _ _) fun _ => preserves_write inside

/-- The source cache and the patch, with what is above and below. -/
def Within (above path : Path) : Prop :=
  Along (cacheOf above) path ∨ Along (patchOf above) path

/-- The source cache and the patch are all that changes. -/
theorem preserves_within :
    Preserves (AgreeOutside (Within above) base)
      (regeneratePatch tools cargo (patchOf above) source dependency) := by
  rw [regeneratePatch_patchOf]
  exact .bind (.widen (fun _ => preserves_preparePackage) fun _ => Or.inl)
    fun _ => .bind (.widen (fun _ => preserves_writePatch) fun _ => Or.inr)
      fun _ => preserves_removeDirAll fun _ => Or.inl ∘ Or.inl

theorem along_of_within {path : Path} (within : Within above path) :
    Along above path := by
  have along : ∀ {rest}, Along (above ++ rest) path → Along above path := by
    rintro rest (below | upper)
    · exact Or.inl ((List.prefix_append _ _).trans below)
    · exact List.prefix_or_prefix_of_prefix (List.prefix_append _ _) upper
  rcases within with cache | patch
  · exact along cache
  · exact along patch

/-- The directory above the patch is all that changes. -/
theorem preserves_regeneratePatch :
    Preserves (AgreeOutside (Along above) base)
      (regeneratePatch tools cargo (patchOf above) source dependency) :=
  .widen (fun _ => preserves_within) fun _ => along_of_within

theorem not_cacheOf_prefix_of_above (higher : other <+: above) :
    ¬ cacheOf above <+: other := by
  intro longer
  have lengths := (longer.trans higher).length_le
  simp [cacheOf] at lengths

/-- Nothing removes what is above. -/
theorem keeps_regeneratePatch (higher : other <+: above) :
    Preserves (fun files => entryAt files other = some .directory)
      (regeneratePatch tools cargo (patchOf above) source dependency) := by
  have upper : other <+: cacheOf above :=
    higher.trans (List.prefix_append _ _)
  rw [regeneratePatch_patchOf]
  exact .bind (.bind keeps_createDirAll fun _ => keeps_fillCache upper)
    fun _ => .bind keeps_writePatch fun _ =>
      keeps_removeDirAll (not_cacheOf_prefix_of_above higher)

theorem preserves_preparePatchWith {condition : Files → Prop}
    {directory : Path}
    (regenerates : Preserves condition
      (regeneratePatch tools cargo directory source dependency)) :
    Preserves condition
      (preparePatchWith tools cargo directory source dependency) :=
  .bind (.query _) fun _ => .bind (preserves_ofExcept _) fun _ =>
    .ite (.pure ()) regenerates

/-- The checker reads the three files and nothing else. -/
theorem patchCurrent_congr {directory : Path} {after : Files}
    (manifest : entryAt after (manifestPath directory) =
      entryAt files (manifestPath directory))
    (build : entryAt after (buildPath directory) =
      entryAt files (buildPath directory))
    (lib : entryAt after (libPath directory) =
      entryAt files (libPath directory)) :
    patchCurrent tools directory source dependency after =
      patchCurrent tools directory source dependency files := by
  simp only [patchCurrent, isFile_congr manifest, isFile_congr build,
    isFile_congr lib, readText_congr manifest, readText_congr build,
    readText_congr lib]

theorem isFile_of_patchCurrent {directory : Path}
    (current : patchCurrent tools directory source dependency files =
      .ok true) : isFile files (manifestPath directory) = true := by
  unfold patchCurrent at current
  split at current
  · cases current
  · rename_i present
    exact (not_not.mp present).1

theorem readable_congr {directory : Path} {after : Files}
    (manifest : entryAt after (manifestPath directory) =
      entryAt files (manifestPath directory))
    (build : entryAt after (buildPath directory) =
      entryAt files (buildPath directory))
    (lib : entryAt after (libPath directory) =
      entryAt files (libPath directory)) :
    Readable tools directory after ↔ Readable tools directory files := by
  simp only [Readable, isFile_congr manifest, isFile_congr build,
    isFile_congr lib, readText_congr manifest, readText_congr build,
    readText_congr lib]

end Frames

/-- The manifest of the project names the patch of Telekio. -/
def Patched (editor : Editor layout) (root : Path) (files : Files) : Prop :=
  ∃ text document, readText files (manifestPath root) = some text ∧
    editor.parse text = some document ∧
    patchPathOf document = some patchPath

/-- What is printed of a changed document parses to the same entries. -/
def Editor.Lawful (editor : Editor layout) : Prop :=
  ∀ text document changed, editor.parse text = some document →
    setPatch document = .ok changed →
    ∃ layout, editor.parse (editor.print changed) =
      some ⟨changed.entries, layout⟩

theorem parent_manifestPath : parent (manifestPath root) = some root := by
  simp [parent, manifestPath]

theorem init_of_accepts {world : World}
    (accepts : Accepts editor root document world.files) :
    init editor tools cargo (manifestPath root) role world =
      (preparePatch tools cargo (directoryOf root) role >>= fun _ =>
        ofExcept (setPatch document) >>= fun changed =>
          Effect.write (manifestPath root) (editor.print changed).toUTF8)
        world := by
  obtain ⟨text, read, parsed⟩ := accepts.manifest
  have reads : Effect.readToString (manifestPath root) world =
      .ok text world :=
    Effect.readToString_eq_ok.mpr ⟨read, rfl⟩
  rw [init, parent_manifestPath]
  simp only [Effect.okOr, pure_bind]
  rw [Effect.bind_of_ok reads, parsed]
  simp only [pure_bind, accepts.own, Bool.false_eq_true, if_false]
  rw [patchProject, Effect.query_bind, accepts.destination]
  simp only [ofExcept, pure_bind]

theorem validateDestination_of_init {world after : World}
    (returned : init editor tools cargo (manifestPath root) role world =
      .ok () after) :
    validateDestination (directoryOf root) world.files = .ok () := by
  rw [init, parent_manifestPath] at returned
  obtain ⟨_, _, found, reading⟩ := Effect.bind_eq_ok.mp returned
  obtain ⟨same, rfl⟩ := Effect.okOr_eq_ok.mp found
  cases same
  obtain ⟨text, _, reads, parsing⟩ := Effect.bind_eq_ok.mp reading
  obtain ⟨-, rfl⟩ := Effect.readToString_eq_ok.mp reads
  obtain ⟨document, _, parsed, guarded⟩ := Effect.bind_eq_ok.mp parsing
  obtain ⟨-, rfl⟩ := Effect.okOr_eq_ok.mp parsed
  split at guarded
  · cases guarded
  · rw [patchProject, Effect.query_bind] at guarded
    cases valid : validateDestination (directoryOf root) _ with
    | ok => rfl
    | error error =>
        rw [valid] at guarded
        cases guarded

/-- The manifest is written, and nothing else. -/
theorem writesManifest {contents : ByteArray}
    (there : entryAt files root = some .directory)
    (stays : entryAt files (manifestPath root) ≠ some .directory) :
    ∃ after, Effect.write (manifestPath root) contents ⟨files, []⟩ =
        .ok () ⟨after, []⟩ ∧
      entryAt after (manifestPath root) = some (.file contents) ∧
      AgreeOutside (· = manifestPath root) files after := by
  have inside : (manifestPath root).dropLast = root := by
    simp [manifestPath]
  have writes : writable files (manifestPath root) = true := by
    simp [writable, isDirectory, inside, there, stays]
  obtain ⟨_, after, wrote, -⟩ := @succeeds_write _ contents files writes
  have written := @after_write (manifestPath root) contents (fun _ => True)
    ⟨files, []⟩ trivial
  have same := @preserves_write (· = manifestPath root) files
    (manifestPath root) contents rfl ⟨files, []⟩ (.refl _ _)
  rw [wrote] at written same
  exact ⟨after, wrote, written, same⟩

/-- Tokio is prepared in a project that is accepted. -/
theorem prepares_of_accepts (lawful : tools.format.Lawful manifestComment)
    (tree : Tree files) (accepts : Accepts editor root document files)
    (readable : Readable tools (directoryOf root) files)
    (package : TokioPackage tools cargo selected entries table original
      preamble role role) :
    ∃ left, preparePatch tools cargo (directoryOf root) role ⟨files, []⟩ =
        .ok () ⟨left, []⟩ ∧
      patchCurrent tools (directoryOf root) role role left = .ok true := by
  have rooted := accepts.rooted tree
  have valid := accepts.destination
  obtain ⟨result, prepared, prepares, -⟩ :=
    succeeds_preparePackage package.registered package.regular files
      (fresh_of_valid tree rooted valid)
  exact preparePatchWith_of_readable lawful package
    (patchable_of_valid tree rooted valid) prepares readable

/-- A project that is accepted is patched, if Tokio can be prepared and the
checker can read what is there. -/
theorem init_succeeds (lawful : tools.format.Lawful manifestComment)
    (editorLawful : editor.Lawful) (tree : Tree files)
    (accepts : Accepts editor root document files)
    (readable : Readable tools (directoryOf root) files)
    (package : TokioPackage tools cargo selected entries table original
      preamble role role)
    (settable : setPatch document = .ok changed) :
    ∃ after, init editor tools cargo (manifestPath root) role ⟨files, []⟩ =
        .ok () after ∧
      Patched editor root after.files ∧
      patchCurrent tools (directoryOf root) role role after.files =
        .ok true := by
  have rooted := accepts.rooted tree
  obtain ⟨left, ran, current⟩ :=
    prepares_of_accepts lawful tree accepts readable package
  have agree := preserves_preparePatchWith (@preserves_regeneratePatch _ tools
    cargo role role (telekioOf root) files) ⟨files, []⟩ (.refl _ _)
  have higher : root <+: telekioOf root := List.prefix_append _ _
  have kept := preserves_preparePatchWith (@keeps_regeneratePatch _ tools
    cargo role role (telekioOf root) root higher) ⟨files, []⟩ rooted.directory
  have ranWith : preparePatchWith tools cargo (patchOf (telekioOf root)) role
      role ⟨files, []⟩ = .ok () ⟨left, []⟩ := ran
  rw [ranWith] at agree kept
  obtain ⟨text, read, parsed⟩ := accepts.manifest
  have apart : ¬ Along (telekioOf root) (manifestPath root) := by
    simp [Along, telekioOf, manifestPath]
  have stays : entryAt left (manifestPath root) ≠ some .directory := by
    rw [agree _ apart]
    exact not_directory_of_readText ⟨text, read⟩
  obtain ⟨last, wrote, there, same⟩ := @writesManifest root left
    (editor.print changed).toUTF8 kept stays
  obtain ⟨layout, parses⟩ := editorLawful text document changed parsed settable
  have named := patchPathOf_setPatch settable
  refine ⟨⟨last, []⟩, ?_, ⟨_, _, readText_eq there, parses, named⟩, ?_⟩
  · rw [init_of_accepts accepts, Effect.bind_of_ok ran, settable]
    exact wrote
  · have other : ∀ {rest}, directoryOf root ++ rest ≠ manifestPath root := by
      simp [directoryOf, patchOf, telekioOf, manifestPath]
    rw [← current]
    exact patchCurrent_congr (same _ other) (same _ other) (same _ other)

/-! ## A preparation that fails -/

/-- The directory of the cache is not made: the change that makes it, or the
one that makes `.telekio`, meets a fault. -/
def StopsEarly (root : Path) (files : Files) (faults : List (Option Fault)) :
    Prop :=
  Faulty faults ∨
    entryAt files (telekioOf root) = none ∧ Faulty faults.tail

/-- What is left to do once there is a directory for the cache. -/
def finishPatch (tools : Tools json) (cargo : Cargo json) (above : Path)
    (source dependency : Role) : Effect Unit := do
  Effect.createDirectories (cacheOf above)
    ["tokio" ++ "-source-" ++ tokioVersion, "src"]
  let found ← fillCache cargo (cacheOf above) "tokio" tokioVersion
  writePatch tools (patchOf above) found.1 found.2 source dependency
  Effect.removeDirAll (cacheOf above)

theorem regeneratePatch_eq :
    regeneratePatch tools cargo (patchOf above) source dependency =
      (Effect.createDirAll (cacheOf above) >>= fun _ =>
        finishPatch tools cargo above source dependency) := by
  rw [regeneratePatch_patchOf, prepareTokioIn, preparePackage, outOf,
    List.append_assoc, Effect.createDirAll, createDirectories_append]
  simp only [bind_assoc, List.nil_append]
  rfl

theorem stays_removeCache :
    Triple (fun files => Rooted files (cacheOf above))
      (Effect.removeDirAll (cacheOf above)) (fun _ _ => True)
      (fun files => Rooted files (cacheOf above)) := by
  have higher : Preserves (fun files => Rooted files above)
      (Effect.removeDirAll (cacheOf above)) :=
    keeps_rooted fun _ inside =>
      keeps_removeDirAll (not_cacheOf_prefix_of_above inside)
  refine (stays_removeDirAll.and higher).consequence ?_
    (fun _ _ _ => trivial) fun _ ⟨there, rooted⟩ => rooted.snoc there
  exact fun files rooted =>
    ⟨rooted.directory, rooted.mono (List.prefix_append _ _)⟩

/-- The cache stays if anything fails. -/
theorem stays_finishPatch :
    Triple (fun files => Rooted files (cacheOf above))
      (finishPatch tools cargo above source dependency) (fun _ _ => True)
      (fun files => Rooted files (cacheOf above)) :=
  .bind (keeps_rooted fun _ _ => keeps_createDirectories) fun _ =>
    .bind (keeps_rooted fun _ inside => keeps_fillCache inside) fun _ =>
      .bind (keeps_rooted fun _ _ => keeps_writePatch) fun _ =>
        stays_removeCache

section Faults

variable {faults : List (Option Fault)}

/-- The first changes make `.telekio`, if it is not there, and the directory
of the cache. -/
theorem createCache (rooted : Rooted files root) :
    Effect.createDirAll (cacheOf (telekioOf root)) ⟨files, faults⟩ =
      (Effect.ensureDirectory (telekioOf root) >>= fun _ =>
        Effect.ensureDirectory (cacheOf (telekioOf root)))
        ⟨files, faults⟩ := by
  have split : cacheOf (telekioOf root) = root ++ [".telekio", "source"] := by
    simp [cacheOf, telekioOf]
  rw [split, createDirAll_append rooted, createDirectories_pair]
  simp [telekioOf]

theorem cache_of_put (absent : entryAt files (cacheOf above) = none) :
    entryAt (put above .directory files) (cacheOf above) = none := by
  rw [entryAt_put_of_ne (by simp [cacheOf])]
  exact absent

/-- What a run leaves that stops before there is a cache. -/
theorem createCache_of_stopsEarly (rooted : Rooted files root)
    (telekio : entryAt files (telekioOf root) = none ∨
      entryAt files (telekioOf root) = some .directory)
    (absent : entryAt files (cacheOf (telekioOf root)) = none)
    (early : StopsEarly root files faults) :
    ∃ left later, Effect.createDirAll (cacheOf (telekioOf root))
        ⟨files, faults⟩ = .error .io ⟨left, later⟩ ∧
      (left = files ∨ entryAt files (telekioOf root) = none ∧
        left = put (telekioOf root) .directory files) := by
  rw [createCache rooted]
  rcases telekio with missing | there
  · by_cases faulty : Faulty faults
    · exact ⟨files, faults.tail, Effect.bind_of_error
        (ensureDirectory_of_faulty faulty missing), Or.inl rfl⟩
    · have made := ensureDirectory_of_vacant faulty rooted.directory missing
      have later := (early.resolve_left faulty).2
      refine ⟨_, faults.tail.tail, ?_, Or.inr ⟨missing, rfl⟩⟩
      rw [telekioOf, Effect.bind_of_ok made]
      exact ensureDirectory_of_faulty later (cache_of_put absent)
  · have faulty : Faulty faults := by
      rcases early with faulty | ⟨missing, -⟩
      · exact faulty
      · rw [missing] at there
        cases there
    refine ⟨files, faults.tail, ?_, Or.inl rfl⟩
    rw [Effect.bind_of_ok (ensureDirectory_of_present there)]
    exact ensureDirectory_of_faulty faulty absent

/-- Any other run makes the cache. -/
theorem createCache_of_not_stopsEarly (rooted : Rooted files root)
    (telekio : entryAt files (telekioOf root) = none ∨
      entryAt files (telekioOf root) = some .directory)
    (absent : entryAt files (cacheOf (telekioOf root)) = none)
    (late : ¬ StopsEarly root files faults) :
    ∃ world, Effect.createDirAll (cacheOf (telekioOf root))
        ⟨files, faults⟩ = .ok () world := by
  have healthy : ¬ Faulty faults := fun faulty => late (Or.inl faulty)
  rw [createCache rooted]
  rcases telekio with missing | there
  · have healthyAfter : ¬ Faulty faults.tail :=
      fun faulty => late (Or.inr ⟨missing, faulty⟩)
    have made := ensureDirectory_of_vacant healthy rooted.directory missing
    have there : entryAt (put (telekioOf root) .directory files)
        (telekioOf root) = some .directory :=
      entryAt_put_self (by simp [telekioOf])
    have next := ensureDirectory_of_vacant healthyAfter there
      (cache_of_put absent)
    exact ⟨_, (Effect.bind_of_ok made).trans next⟩
  · have made := @ensureDirectory_of_present files _ faults there
    have next := ensureDirectory_of_vacant healthy there absent
    exact ⟨_, (Effect.bind_of_ok made).trans next⟩

theorem preparePatch_of_checked
    (checked : patchCurrent tools (directoryOf root) role role files =
      .ok false) :
    preparePatch tools cargo (directoryOf root) role ⟨files, faults⟩ =
      (Effect.createDirAll (cacheOf (telekioOf root)) >>= fun _ =>
        finishPatch tools cargo (telekioOf root) role role)
        ⟨files, faults⟩ := by
  rw [preparePatch, preparePatchWith_of_checked checked, directoryOf,
    regeneratePatch_eq]
  rfl

variable {error : Error} {left : World}

theorem left_of_stopsEarly (tree : Tree files)
    (accepts : Accepts editor root document files)
    (checked : patchCurrent tools (directoryOf root) role role files =
      .ok false)
    (failed : preparePatch tools cargo (directoryOf root) role
      ⟨files, faults⟩ = .error error left)
    (early : StopsEarly root files faults) :
    left.files = files ∨ entryAt files (telekioOf root) = none ∧
      left.files = put (telekioOf root) .directory files := by
  have valid := accepts.destination
  obtain ⟨stopped, later, ran, what⟩ := createCache_of_stopsEarly
    (accepts.rooted tree) (telekio_of_valid valid)
    (cache_of_valid tree valid) early
  rw [preparePatch_of_checked checked, Effect.bind_of_error ran] at failed
  cases failed
  exact what

theorem left_of_not_stopsEarly (tree : Tree files)
    (accepts : Accepts editor root document files)
    (checked : patchCurrent tools (directoryOf root) role role files =
      .ok false)
    (failed : preparePatch tools cargo (directoryOf root) role
      ⟨files, faults⟩ = .error error left)
    (late : ¬ StopsEarly root files faults) :
    Rooted left.files (cacheOf (telekioOf root)) := by
  have valid := accepts.destination
  obtain ⟨world, ran⟩ := createCache_of_not_stopsEarly
    (accepts.rooted tree) (telekio_of_valid valid)
    (cache_of_valid tree valid) late
  have made := @after_createDirAll (cacheOf (telekioOf root))
    (fun _ => True) ⟨files, faults⟩ trivial
  rw [ran] at made
  rw [preparePatch_of_checked checked, Effect.bind_of_ok ran] at failed
  have stays := @stays_finishPatch _ tools cargo role role (telekioOf root)
    world made
  rw [failed] at stays
  exact stays

/-- An empty `.telekio` is accepted. -/
theorem Accepts.put_telekio (accepts : Accepts editor root document files)
    (tree : Tree files) (missing : entryAt files (telekioOf root) = none) :
    Accepts editor root document
      (put (telekioOf root) .directory files) where
  manifest := by
    obtain ⟨text, read, parsed⟩ := accepts.manifest
    have same : entryAt (put (telekioOf root) .directory files)
        (manifestPath root) = entryAt files (manifestPath root) :=
      entryAt_put_of_ne (by simp [manifestPath, telekioOf])
    exact ⟨text, (readText_congr same).trans read, parsed⟩
  own := accepts.own
  destination := by
    have vacant := tree.vacantBelow missing
    refine validateDestination_eq_ok.mpr ⟨Or.inr ?_, Or.inl ?_⟩
    · refine validateNames_eq_ok.mpr
        ⟨entryAt_put_self (by simp [telekioOf]), ?_⟩
      intro name listed
      have present := present_of_mem_names listed
      rw [entryAt_put_of_ne (by simp)] at present
      exact absurd (vacant _ (List.prefix_append _ _)) present
    · rw [entryAt_put_of_ne (by simp [directoryOf, patchOf])]
      exact vacant _ (List.prefix_append _ _)

theorem readable_put_telekio
    (readable : Readable tools (directoryOf root) files) :
    Readable tools (directoryOf root)
      (put (telekioOf root) .directory files) := by
  have same : ∀ rest, entryAt (put (telekioOf root) .directory files)
      (directoryOf root ++ rest) = entryAt files (directoryOf root ++ rest) :=
    fun rest => entryAt_put_of_ne (by simp [directoryOf, patchOf])
  exact (readable_congr (same _) (same _) (same _)).mpr readable

/-- After an `init` whose preparation fails, another one that meets no fault
patches the project exactly when the failed one has not made the source
cache. -/
theorem init_repeats_iff {broken : Cargo json} {later : Role}
    (lawful : tools.format.Lawful manifestComment)
    (editorLawful : editor.Lawful) (tree : Tree files)
    (accepts : Accepts editor root document files)
    (checked : patchCurrent tools (directoryOf root) role role files =
      .ok false)
    (failed : preparePatch tools broken (directoryOf root) role
      ⟨files, faults⟩ = .error error left)
    (package : TokioPackage tools cargo selected entries table original
      preamble later later)
    (settable : setPatch document = .ok changed) :
    init editor tools broken (manifestPath root) role ⟨files, faults⟩ =
        .error error left ∧
      ((∃ after, init editor tools cargo (manifestPath root) later
          ⟨left.files, []⟩ = .ok () after ∧
        Patched editor root after.files ∧
        patchCurrent tools (directoryOf root) later later after.files =
          .ok true) ↔
        StopsEarly root files faults) := by
  have readable : Readable tools (directoryOf root) files :=
    patchCurrent_eq_ok_iff.mp ⟨false, checked⟩
  constructor
  · rw [@init_of_accepts _ _ _ _ _ _ _ _ ⟨files, faults⟩ accepts]
    exact Effect.bind_of_error failed
  · constructor
    · rintro ⟨after, returned, -⟩
      have valid := validateDestination_of_init returned
      by_contra late
      have cache := left_of_not_stopsEarly tree accepts checked failed late
      exact validateDestination_of_cache cache valid
    · intro early
      rcases left_of_stopsEarly tree accepts checked failed early with
        same | ⟨missing, same⟩
      · rw [same]
        exact init_succeeds lawful editorLawful tree accepts readable package
          settable
      · rw [same]
        exact init_succeeds lawful editorLawful
          (tree.put_directory (accepts.rooted tree).directory)
          (accepts.put_telekio tree missing) (readable_put_telekio readable)
          package settable

end Faults

def projectText : String :=
  "[package]\nname = \"app\"\n"

def projectEntries : List (String × Item) :=
  [("package", .table [("name", .string "app")])]

def patchedText : String :=
  projectText ++
  "\n[patch.crates-io]\ntokio = \x7b path = \".telekio/tokio\" \x7d\n"

def patchedEntries : List (String × Item) :=
  projectEntries ++ [("patch", .table [("crates-io", .table
    [("tokio", .inlineTable [("path", .string patchPath)])])])]

/-- An editor that knows the manifest of one project, and the patched one. -/
def projectEditor : Editor Unit where
  parse text :=
    if text = projectText then some ⟨projectEntries, ()⟩
    else if text = patchedText then some ⟨patchedEntries, ()⟩
    else none
  print _ := patchedText

def projectFiles : Files :=
  [(["Cargo.toml"], .file projectText.toUTF8)]

theorem setPatch_project :
    setPatch (⟨projectEntries, ()⟩ : Document Unit) =
      .ok ⟨patchedEntries, ()⟩ :=
  rfl

theorem setPatch_patched :
    setPatch (⟨patchedEntries, ()⟩ : Document Unit) =
      .ok ⟨patchedEntries, ()⟩ :=
  rfl

theorem projectEditor_lawful : projectEditor.Lawful := by
  have reparses : projectEditor.parse patchedText =
      some ⟨patchedEntries, ()⟩ := by
    have other : patchedText ≠ projectText := by decide
    simp [projectEditor, other]
  intro text document changed parsed set
  refine ⟨(), ?_⟩
  have same : changed.entries = patchedEntries := by
    simp only [projectEditor] at parsed
    split at parsed
    · cases parsed
      cases setPatch_project.symm.trans set
      rfl
    · split at parsed
      · cases parsed
        cases setPatch_patched.symm.trans set
        rfl
      · cases parsed
  rw [same]
  exact reparses

theorem tree_projectFiles : Tree projectFiles :=
  tree_singleton

theorem accepts_projectFiles :
    Accepts projectEditor [] ⟨projectEntries, ()⟩ projectFiles where
  manifest := ⟨projectText, readText_eq rfl, by simp [projectEditor]⟩
  own := rfl
  destination := rfl

/-- `.telekio` cannot be made; the next `init` patches the project. -/
theorem init_repeats_of_unmade :
    ∃ patched after, init projectEditor
        (sampleTools sampleText plainText sampleRoot patched)
        (sampleCargo sampleText) (manifestPath []) .guest
          ⟨projectFiles, []⟩ = .ok () after ∧
      Patched projectEditor [] after.files := by
  obtain ⟨patched, generated⟩ : ∃ patched,
      patchManifest ⟨"0.1.0", "1.98"⟩ (.table sampleRoot)
        (.table sampleFeatures) .guest .guest = .ok patched :=
    ⟨_, rfl⟩
  have other : sampleText ≠ manifestComment ++ plainText := by decide
  have failed : preparePatch
      (sampleTools sampleText plainText sampleRoot patched)
      (sampleCargo sampleText) (directoryOf []) .guest
      ⟨projectFiles, [some ⟨none, []⟩]⟩ = .error .io ⟨projectFiles, []⟩ :=
    rfl
  obtain ⟨after, returned, named, -⟩ := (init_repeats_iff
    (sampleFormat_lawful sampleRoot_formed generated) projectEditor_lawful
    tree_projectFiles accepts_projectFiles rfl failed
    (sample_tokioPackage other generated) setPatch_project).2.mpr
      (Or.inl ⟨_, _, rfl⟩)
  exact ⟨patched, after, returned, named⟩

/-- Cargo cannot resolve Tokio; every later `init` refuses what is left. -/
theorem not_forall_repeats :
    ¬ ∀ (editor : Editor Unit) (tools : Tools Unit)
        (broken cargo : Cargo Unit) (root : Path) (files : Files)
        (document changed : Document Unit) (role later : Role)
        (faults : List (Option Fault)) (error : Error) (left : World)
        (selected : Package Unit) (entries : List (String × Node))
        (table original : Table) (preamble : String),
      tools.format.Lawful manifestComment →
      editor.Lawful →
      Tree files →
      Accepts editor root document files →
      patchCurrent tools (directoryOf root) role role files = .ok false →
      preparePatch tools broken (directoryOf root) role ⟨files, faults⟩ =
        .error error left →
      TokioPackage tools cargo selected entries table original preamble
        later later →
      setPatch document = .ok changed →
      ∃ after, init editor tools cargo (manifestPath root) later
          ⟨left.files, []⟩ = .ok () after ∧
        Patched editor root after.files ∧
        patchCurrent tools (directoryOf root) later later after.files =
          .ok true := by
  intro claim
  obtain ⟨patched, generated⟩ : ∃ patched,
      patchManifest ⟨"0.1.0", "1.98"⟩ (.table sampleRoot)
        (.table sampleFeatures) .guest .guest = .ok patched :=
    ⟨_, rfl⟩
  have other : sampleText ≠ manifestComment ++ plainText := by decide
  -- the changes before the one that asks Cargo are those that make the cache
  obtain ⟨left, failed⟩ : ∃ left, preparePatch
      (sampleTools sampleText plainText sampleRoot patched)
      (sampleCargo sampleText) (directoryOf []) .guest
      ⟨projectFiles, [none, none, none, none, none, none, none,
        some ⟨none, []⟩]⟩ =
        .error (.message "cargo metadata failed") left :=
    ⟨_, rfl⟩
  obtain ⟨after, returned, -⟩ := claim _ _ _ _ _ _ _ _ _ _ _ _ _ _ _ _ _ _
    (sampleFormat_lawful sampleRoot_formed generated) projectEditor_lawful
    tree_projectFiles accepts_projectFiles rfl failed
    (sample_tokioPackage other generated) setPatch_project
  have valid := validateDestination_of_init returned
  have late : ¬ StopsEarly [] projectFiles [none, none, none, none, none,
      none, none, some ⟨none, []⟩] := by
    simp [StopsEarly, Faulty]
  have cache := left_of_not_stopsEarly tree_projectFiles accepts_projectFiles
    rfl failed late
  exact validateDestination_of_cache cache valid

end Telekio.Patching
