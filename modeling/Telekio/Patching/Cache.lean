import Telekio.Patching.Copying

/-!
# The source cache

What `prepare_package` does beside a patch: it changes nothing but its own
cache, and the directories above it; the cache stays whatever fails after it
is made; and if it returns, the files of the package are there.
-/

namespace Telekio.Patching

open Telekio.Disk

variable {json : Type} {cargo : Cargo json} {output other : Path}
variable {package version : String} {base : Files} {entry : Entry}

/-- A path and what is above or below it. -/
def Along (output path : Path) : Prop :=
  output <+: path ∨ path <+: output

theorem Along.above {path above : Path} (along : Along output path)
    (inside : above <+: path) : Along output above := by
  rcases along with below | upper
  · exact List.prefix_or_prefix_of_prefix below inside
  · exact Or.inr (inside.trans upper)

theorem Along.anchored {path : Path} (along : Along output path) :
    Anchored (Along output) base path :=
  fun _ _ inside => Or.inl (along.above inside)

theorem along_outOf {rest : Path} :
    Along output (outOf output package version ++ rest) := by
  rw [outOf, List.append_assoc]
  exact Or.inl (List.prefix_append _ _)

theorem along_destinationOf {rest : Path} :
    Along output (destinationOf output package version ++ rest) := by
  rw [destinationOf, List.append_assoc]
  exact Or.inl (List.prefix_append _ _)

section Parts

variable {condition : Files → Prop} {out destination : Path}

theorem preserves_ensureManifest
    (manifest : ∀ contents, Preserves condition
      (Effect.write (out ++ ["Cargo.toml"]) contents))
    (lib : ∀ contents, Preserves condition
      (Effect.write (out ++ ["src", "lib.rs"]) contents)) :
    Preserves condition (ensureManifest package version out) := by
  unfold ensureManifest
  refine .bind (.query _) fun _ => .ite ?_ ?_
  · exact .bind (.readToString _) fun _ => .ite (.pure ()) (manifest _)
  · exact .bind (manifest _) fun _ => lib _

theorem preserves_ensureLockfile
    (lock : ∀ contents, Preserves condition
      (Effect.write (out ++ ["Cargo.lock"]) contents)) :
    Preserves condition (ensureLockfile cargo out) :=
  .bind (.query _) fun _ => .ite (.pure ()) (lock _)

theorem preserves_packageSource :
    Preserves condition (packageSource cargo package version) := by
  unfold packageSource
  refine .bind (.change (fun _ _ holds => holds) ?_) fun _ => ?_
  · intro files changed holds worked
    cases worked
    exact holds
  · split
    · exact .bind (.okOr _ _) fun _ => .pure _
    · exact .throw _

theorem preserves_removeDirectory
    (remove : Preserves condition (Effect.removeDirAll destination)) :
    Preserves condition (removeDirectory destination) :=
  .bind (.query _) fun _ => .ite remove (.pure ())

end Parts

theorem preserves_fillCache :
    Preserves (AgreeOutside (Along output) base)
      (fillCache cargo output package version) := by
  have along := fun rest => @along_destinationOf output package version rest
  have target : Along output (destinationOf output package version) := by
    simpa using along []
  unfold fillCache
  refine .bind (preserves_ensureManifest
      (fun _ => preserves_write along_outOf)
      fun _ => preserves_write along_outOf) fun _ =>
    .bind (preserves_ensureLockfile fun _ => preserves_write along_outOf)
      fun _ => .bind preserves_packageSource fun found =>
        .bind (preserves_removeDirectory (preserves_removeDirAll ?_))
          fun _ => .bind (.bind (preserves_createDirAll target.anchored)
            fun _ => preserves_copyEntries _ target.anchored ?_ _)
              fun _ => .pure _
  · rintro below ⟨rest, rfl⟩
    exact along rest
  · rintro name below ⟨rest, rfl⟩
    rw [List.append_assoc]
    exact along _

theorem preserves_preparePackage :
    Preserves (AgreeOutside (Along output) base)
      (preparePackage cargo output package version) :=
  .bind (preserves_createDirAll along_outOf.anchored)
    fun _ => preserves_fillCache

/-- Nothing removes the cache or what is above it. -/
theorem keeps_fillCache (above : other <+: output) :
    Preserves (fun files => entryAt files other = some .directory)
      (fillCache cargo output package version) := by
  have outside : ∀ rest,
      ¬ destinationOf output package version ++ rest <+: other := by
    intro rest inside
    have longer := (inside.trans above).length_le
    simp [destinationOf] at longer
  unfold fillCache
  refine .bind (preserves_ensureManifest (fun _ => keeps_write)
      fun _ => keeps_write) fun _ =>
    .bind (preserves_ensureLockfile fun _ => keeps_write)
      fun _ => .bind preserves_packageSource fun found =>
        .bind (preserves_removeDirectory (keeps_removeDirAll ?_))
          fun _ => .bind (.bind keeps_createDirAll
            fun _ => keeps_copyEntries _ _ fun name _ => outside [name])
              fun _ => .pure _
  simpa using outside []

/-- The one package that Cargo answers with, and its files. -/
structure Registered (cargo : Cargo json) (package version : String)
    (selected : Package json) (entries : List (String × Node)) : Prop where
  selects : cargo.packages.filter (isSelected package version) = [selected]
  directory : selected.directory = some entries
  distinct : Distinct entries

variable {selected : Package json} {entries : List (String × Node)}

theorem packageSource_of_registered
    (registered : Registered cargo package version selected entries) :
    packageSource cargo package version =
      runMetadata >>= fun _ => pure (entries, selected.features) := by
  rw [packageSource, registered.selects]
  simp only [registered.directory]
  rfl

/-- If it returns, the files of the package are in the destination. -/
theorem after_fillCache
    (registered : Registered cargo package version selected entries) :
    Triple (fun _ => True) (fillCache cargo output package version)
      (fun result files =>
        result = (destinationOf output package version, selected.features) ∧
        Copied (destinationOf output package version) entries files)
      (fun _ => True) := by
  unfold fillCache
  rw [packageSource_of_registered registered]
  simp only [bind_assoc, pure_bind]
  refine .bind Triple.trivial fun _ => .bind Triple.trivial fun _ =>
    .bind Triple.trivial fun _ => .bind Triple.trivial fun _ =>
      .bind (.bind Triple.trivial fun _ =>
        copies_entries _ entries registered.distinct) fun _ => ?_
  exact .pure fun _ copied => ⟨rfl, copied⟩

theorem after_preparePackage
    (registered : Registered cargo package version selected entries) :
    Triple (fun _ => True) (preparePackage cargo output package version)
      (fun result files => Rooted files output ∧
        result = (destinationOf output package version, selected.features) ∧
        Copied (destinationOf output package version) entries files)
      (fun _ => True) := by
  have made : Triple (fun _ => True)
      (Effect.createDirAll (outOf output package version ++ ["src"]))
      (fun _ files => Rooted files output) (fun _ => True) := by
    refine after_createDirAll.consequence (fun _ => id) ?_ fun _ => id
    intro _ files rooted
    refine rooted.mono ?_
    rw [outOf, List.append_assoc]
    exact List.prefix_append _ _
  refine .bind made fun _ => ?_
  exact (Triple.and (keeps_rooted fun above inside => keeps_fillCache inside)
    (after_fillCache registered)).consequence
      (fun _ rooted => ⟨rooted, trivial⟩) (fun _ _ => id) fun _ _ => trivial

/-! ## When it works -/

/-- The cache can be made, and there is none. -/
structure Fresh (output : Path) (files : Files) : Prop where
  creatable : Creatable files output
  vacant : VacantBelow files output

/-- The directory for the package that depends on Tokio is empty. -/
structure Empty (out destination : Path) (files : Files) : Prop where
  rooted : Rooted files (out ++ ["src"])
  manifest : VacantBelow files (out ++ ["Cargo.toml"])
  lock : VacantBelow files (out ++ ["Cargo.lock"])
  lib : VacantBelow files (out ++ ["src", "lib.rs"])
  destination : VacantBelow files destination

theorem writable_of_rooted {files : Files} {path : Path} {name : String}
    (rooted : Rooted files path)
    (vacant : VacantBelow files (path ++ [name])) :
    writable files (path ++ [name]) = true := by
  simp [writable, isDirectory, rooted.directory, vacant _ List.prefix_rfl]

theorem not_isFile_of_vacant {files : Files} {path : Path}
    (vacant : VacantBelow files path) : isFile files path = false := by
  simp [isFile, vacant _ List.prefix_rfl]

theorem destination_apart {rest : Path} :
    ¬ destinationOf output package version <+:
      outOf output package version ++ rest := by
  rw [destinationOf, outOf, List.append_assoc, List.prefix_append_right_inj,
    List.singleton_append, List.cons_prefix_cons]
  rintro ⟨same, -⟩
  have lengths := congrArg String.length same
  simp only [String.length_append] at lengths
  have short : "-".length = 1 := by decide
  have long : "-source-".length = 8 := by decide
  omega

section Steps

variable {out destination : Path}

theorem Fresh.creatable_outOf {files : Files} (fresh : Fresh output files) :
    Creatable files (outOf output package version ++ ["src"]) := by
  intro above inside
  have along := (@along_outOf output package version ["src"]).above inside
  rcases along with below | upper
  · exact Or.inl (fresh.vacant above below)
  · exact fresh.creatable above upper

theorem Fresh.below {files : Files} {path : Path} (fresh : Fresh output files)
    (inside : output <+: path) : VacantBelow files path :=
  fresh.vacant.mono inside

theorem output_outOf {rest : Path} :
    output <+: outOf output package version ++ rest := by
  rw [outOf, List.append_assoc]
  exact List.prefix_append _ _

theorem output_destinationOf :
    output <+: destinationOf output package version :=
  List.prefix_append _ _

theorem succeeds_createCache :
    Succeeds (Fresh output)
      (Effect.createDirAll (outOf output package version ++ ["src"]))
      (fun _ => Empty (outOf output package version)
        (destinationOf output package version)) := by
  have manifest : ¬ outOf output package version ++ ["Cargo.toml"] <+:
      outOf output package version ++ ["src"] := by simp
  have lock : ¬ outOf output package version ++ ["Cargo.lock"] <+:
      outOf output package version ++ ["src"] := by simp
  have lib : ¬ outOf output package version ++ ["src", "lib.rs"] <+:
      outOf output package version ++ ["src"] := by simp
  have kept := ((Triple.and
    (keeps_vacantBelow_createDirAll manifest)
    (keeps_vacantBelow_createDirAll lock)).and
    (keeps_vacantBelow_createDirAll lib)).and
    (keeps_vacantBelow_createDirAll destination_apart)
  refine ((succeeds_createDirAll.consequence
    (fun files (fresh : Fresh output files) => fresh.creatable_outOf)
    fun _ _ => id).of_triple (kept.consequence
      (fun files fresh => ⟨⟨⟨fresh.below output_outOf,
        fresh.below output_outOf⟩, fresh.below output_outOf⟩,
        fresh.below output_destinationOf⟩)
      (fun _ _ => id) fun _ => id)).consequence (fun _ => id) ?_
  rintro _ files ⟨rooted, ⟨⟨manifest, lock⟩, lib⟩, destination⟩
  exact ⟨rooted, manifest, lock, lib, destination⟩

/-- A file is written into the empty directory; the other places stay free. -/
theorem succeeds_writeManifest {contents : ByteArray}
    (apart : ∀ rest, ¬ destination <+: out ++ rest) :
    Succeeds (Empty out destination)
      (Effect.write (out ++ ["Cargo.toml"]) contents)
      (fun _ files => Rooted files (out ++ ["src"]) ∧
        VacantBelow files (out ++ ["src", "lib.rs"]) ∧
        VacantBelow files (out ++ ["Cargo.lock"]) ∧
        VacantBelow files destination) := by
  have lib : ¬ out ++ ["src", "lib.rs"] <+: out ++ ["Cargo.toml"] := by simp
  have lock : ¬ out ++ ["Cargo.lock"] <+: out ++ ["Cargo.toml"] := by simp
  have kept := (Triple.and
    (keeps_rooted fun _ _ => keeps_write :
      Preserves (fun files => Rooted files (out ++ ["src"]))
        (Effect.write (out ++ ["Cargo.toml"]) contents))
    (Triple.and (keeps_vacantBelow lib)
      (Triple.and (keeps_vacantBelow lock) (keeps_vacantBelow (apart _)))))
  refine (succeeds_write.consequence ?_ fun _ _ => id).of_triple
    (kept.consequence (fun _ empty => ⟨empty.rooted, empty.lib, empty.lock,
      empty.destination⟩) (fun _ _ => id) fun _ => id)
    |>.consequence (fun _ => id) fun _ _ => And.right
  exact fun files empty => writable_of_rooted
    (empty.rooted.mono (List.prefix_append _ _)) empty.manifest

theorem succeeds_ensureManifest
    (apart : ∀ rest, ¬ destination <+: out ++ rest) :
    Succeeds (Empty out destination) (ensureManifest package version out)
      (fun _ files => Rooted files (out ++ ["src"]) ∧
        VacantBelow files (out ++ ["Cargo.lock"]) ∧
        VacantBelow files destination) := by
  have lock : ¬ out ++ ["Cargo.lock"] <+: out ++ ["src", "lib.rs"] := by simp
  have writeLib : Succeeds (fun files => Rooted files (out ++ ["src"]) ∧
        VacantBelow files (out ++ ["src", "lib.rs"]) ∧
        VacantBelow files (out ++ ["Cargo.lock"]) ∧
        VacantBelow files destination)
      (Effect.write (out ++ ["src", "lib.rs"]) "".toUTF8)
      (fun _ files => Rooted files (out ++ ["src"]) ∧
        VacantBelow files (out ++ ["Cargo.lock"]) ∧
        VacantBelow files destination) := by
    have kept := (Triple.and
      (keeps_rooted fun _ _ => keeps_write :
        Preserves (fun files => Rooted files (out ++ ["src"]))
          (Effect.write (out ++ ["src", "lib.rs"]) "".toUTF8))
      (Triple.and (keeps_vacantBelow lock) (keeps_vacantBelow (apart _))))
    refine (succeeds_write.consequence ?_ fun _ _ => id).of_triple
      (kept.consequence (fun _ ⟨rooted, _, lock, free⟩ => ⟨rooted, lock, free⟩)
        (fun _ _ => id) fun _ => id)
      |>.consequence (fun _ => id) fun _ _ => And.right
    rintro files ⟨rooted, lib, -⟩
    have split : out ++ ["src", "lib.rs"] = out ++ ["src"] ++ ["lib.rs"] := by
      simp
    rw [split] at lib ⊢
    exact writable_of_rooted rooted lib
  intro files empty
  have absent := not_isFile_of_vacant empty.manifest
  obtain ⟨value, left, ran, done⟩ :=
    ((succeeds_writeManifest apart).bind fun _ => writeLib) files empty
  refine ⟨value, left, ?_, done⟩
  rw [← ran, ensureManifest]
  simp only [Effect.query, Bind.bind, EStateM.bind, absent]
  rfl

theorem succeeds_ensureLockfile
    (apart : ∀ rest, ¬ destination <+: out ++ rest) :
    Succeeds (fun files => Rooted files (out ++ ["src"]) ∧
        VacantBelow files (out ++ ["Cargo.lock"]) ∧
        VacantBelow files destination)
      (ensureLockfile cargo out)
      (fun _ files => Rooted files (out ++ ["src"]) ∧
        VacantBelow files destination) := by
  intro files ⟨rooted, lock, vacant⟩
  have absent := not_isFile_of_vacant lock
  have write : Succeeds (fun files => Rooted files (out ++ ["src"]) ∧
        VacantBelow files (out ++ ["Cargo.lock"]) ∧
        VacantBelow files destination)
      (Effect.write (out ++ ["Cargo.lock"]) cargo.lockfile)
      (fun _ files => Rooted files (out ++ ["src"]) ∧
        VacantBelow files destination) := by
    refine (succeeds_write.consequence ?_ fun _ _ => id).of_triple
      ((Triple.and (keeps_rooted fun _ _ => keeps_write)
        (keeps_vacantBelow (apart _))).consequence
        (fun _ ⟨rooted, _, vacant⟩ => ⟨rooted, vacant⟩) (fun _ _ => id)
        fun _ => id) |>.consequence (fun _ => id) fun _ _ => And.right
    rintro files ⟨rooted, lock, -⟩
    exact writable_of_rooted (rooted.mono (List.prefix_append _ _)) lock
  obtain ⟨value, left, ran, done⟩ := write files ⟨rooted, lock, vacant⟩
  refine ⟨value, left, ?_, done⟩
  simp only [ensureLockfile, Effect.query, Bind.bind, EStateM.bind, absent]
  exact ran

theorem succeeds_removeDirectory :
    Succeeds (fun files => Rooted files output ∧
        VacantBelow files destination)
      (removeDirectory destination)
      (fun _ files => Rooted files output ∧
        VacantBelow files destination) := by
  rintro files ⟨rooted, vacant⟩
  have absent : isDirectory files destination = false := by
    simp [isDirectory, vacant _ List.prefix_rfl]
  refine ⟨(), files, ?_, rooted, vacant⟩
  simp only [removeDirectory, Effect.query, Bind.bind, EStateM.bind, absent]
  rfl

theorem succeeds_copyDirectory (distinct : Distinct entries)
    (regular : Regular entries) :
    Succeeds (fun files => Rooted files output ∧
        VacantBelow files (destinationOf output package version))
      (copyDirectory entries (destinationOf output package version))
      (fun _ _ => True) :=
  (Succeeds.bind (succeeds_createTarget (entries.map Prod.fst)) fun _ =>
    succeeds_copyEntries _ entries distinct regular).consequence
      (fun _ => id) fun _ _ _ => True.intro

theorem succeeds_runMetadata {condition : Files → Prop} :
    Succeeds condition runMetadata (fun _ => condition) :=
  .change fun files holds => ⟨files, rfl, holds⟩

end Steps

/-- With no cache, and Tokio in the registry, the source is prepared. -/
theorem succeeds_preparePackage
    (registered : Registered cargo package version selected entries)
    (regular : Regular entries) :
    Succeeds (Fresh output) (preparePackage cargo output package version)
      (fun _ _ => True) := by
  refine .bind succeeds_createCache fun _ => ?_
  unfold fillCache
  rw [packageSource_of_registered registered]
  simp only [bind_assoc, pure_bind]
  have apart := fun rest => @destination_apart output package version rest
  refine .bind (succeeds_ensureManifest apart) fun _ =>
    .bind (succeeds_ensureLockfile apart) fun _ =>
      .bind succeeds_runMetadata fun _ => .bind ?_ fun _ =>
        .bind (succeeds_copyDirectory registered.distinct regular) fun _ =>
          .pure fun _ => id
  refine succeeds_removeDirectory.consequence ?_ fun _ _ => id
  rintro files ⟨rooted, vacant⟩
  exact ⟨rooted.mono output_outOf, vacant⟩

end Telekio.Patching
