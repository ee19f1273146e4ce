import Telekio.Patching.Checked
import Telekio.Patching.Copying
import Telekio.Patching.Texts

/-!
# Preparing a patch

`patch_current`, `write_patch` and `prepare_patch_with` of
`telekio-build/src/package.rs`. The `toml` crate and the Rust parser are
parameters.
-/

namespace Telekio.Patching

open Telekio.Disk
open Telekio.Toml

/-- What the generator is built with. `firstItem` is where the first item of a
source starts, in characters, if there are no syntax errors; `quote` is how a
text is printed as JSON. -/
structure Tools (json : Type) where
  release : Release
  format : Format json
  firstItem : String → Option (Option Nat)
  quote : String → String

variable {json : Type} (tools : Tools json) (cargo : Cargo json)

def cratePreamble (source : String) : Option String :=
  (tools.firstItem source).map fun start =>
    String.ofList (source.toList.take (start.getD source.length))

def manifestPath (directory : Path) : Path :=
  directory ++ ["Cargo.toml"]

def buildPath (directory : Path) : Path :=
  directory ++ ["build.rs"]

def libPath (directory : Path) : Path :=
  directory ++ ["src", "lib.rs"]

def orElse {α : Type} (found : Option α) (error : Error) : Except Error α :=
  match found with
  | some value => .ok value
  | none => .error error

def patchCurrent (directory : Path) (source dependency : Role)
    (files : Files) : Except Error Bool :=
  if ¬ (isFile files (manifestPath directory) ∧
      isFile files (buildPath directory) ∧
      isFile files (libPath directory)) then
    .ok false
  else do
    let build ← orElse (readText files (buildPath directory)) .io
    let lib ← orElse (readText files (libPath directory)) .io
    let text ← orElse (readText files (manifestPath directory)) .io
    let manifest ← orElse (tools.format.fromStr text)
      (.message "invalid TOML")
    manifestCurrent tools.release manifest build lib source dependency

def ofExcept {α : Type} (result : Except Error α) : Effect α :=
  match result with
  | .ok value => pure value
  | .error error => throw error

/-- The part of `write_patch` that reads the source: the text of the new
manifest, and the root module of Tokio. -/
def generateTexts (source : Path) (sourceFeatures : json)
    (sourceRole dependencyRole : Role) : Effect (String × String) := do
  let text ← Effect.readToString (manifestPath source)
  let manifest ← Effect.okOr (tools.format.fromStr text)
    (.message "invalid TOML")
  let features ← Effect.okOr (tools.format.tryFrom sourceFeatures)
    (.message "unsupported value")
  let manifest ← ofExcept
    (patchManifest tools.release manifest features sourceRole dependencyRole)
  let sourceRoot ← Effect.readToString (libPath source)
  let printed ← Effect.okOr (tools.format.toString manifest)
    (.message "unsupported value")
  return (printed, sourceRoot)

/-- The part of `write_patch` that writes the files. -/
def writeTexts (directory : Path) (printed sourceRoot : String)
    (sourceRole : Role) : Effect Unit := do
  Effect.write (manifestPath directory) (manifestComment ++ printed).toUTF8
  Effect.write (buildPath directory) (buildScript sourceRole).toUTF8
  let preamble ← Effect.okOr (cratePreamble tools sourceRoot)
    (.message "crate source has syntax errors")
  Effect.write (libPath directory) (libSource preamble sourceRole).toUTF8

def writePatch (directory source : Path) (sourceFeatures : json)
    (sourceRole dependencyRole : Role) : Effect Unit := do
  Effect.createDirAll (directory ++ ["src"])
  let (printed, sourceRoot) ←
    generateTexts tools source sourceFeatures sourceRole dependencyRole
  writeTexts tools directory printed sourceRoot sourceRole

def parent (directory : Path) : Option Path :=
  if directory = [] then none else some directory.dropLast

/-- The source cache beside a patch. -/
def cacheOf (above : Path) : Path :=
  above ++ ["source"]

/-- The part of `prepare_patch_with` after the check. -/
def regeneratePatch (directory : Path) (source dependency : Role) :
    Effect Unit := do
  let above ← Effect.okOr (parent directory)
    (.message "patch directory has no parent")
  let (path, features) ← prepareTokioIn cargo (cacheOf above)
  writePatch tools directory path features source dependency
  Effect.removeDirAll (cacheOf above)

def preparePatchWith (directory : Path) (source dependency : Role) :
    Effect Unit := do
  let checked ← Effect.query (patchCurrent tools directory source dependency)
  let current ← ofExcept checked
  if current then
    pure ()
  else
    regeneratePatch tools cargo directory source dependency

def preparePatch (directory : Path) (role : Role) : Effect Unit :=
  preparePatchWith tools cargo directory role role

def prepareMixedGuestPatch (directory : Path) : Effect Unit :=
  preparePatchWith tools cargo directory .guest .host

variable {tools} {directory path : Path} {features : json}
variable {manifest converted : Value} {preamble : String}
variable {source dependency : Role} {files : Files}

/-- What the generator reads of the source of Tokio. -/
structure Provides (tools : Tools json) (path : Path) (features : json)
    (manifest converted : Value) (preamble : String) (files : Files) :
    Prop where
  manifestText : ∃ text, readText files (manifestPath path) = some text ∧
    tools.format.fromStr text = some manifest
  features : tools.format.tryFrom features = some converted
  libText : ∃ text, readText files (libPath path) = some text ∧
    cratePreamble tools text = some preamble

/-- The three files of a patch. -/
structure Written (tools : Tools json) (directory : Path)
    (source dependency : Role) (manifest converted : Value)
    (preamble : String) (files : Files) : Prop where
  manifest : ∃ patched printed,
    patchManifest tools.release manifest converted source dependency =
      .ok patched ∧
    tools.format.toString patched = some printed ∧
    entryAt files (manifestPath directory) =
      some (.file (manifestComment ++ printed).toUTF8)
  build : entryAt files (buildPath directory) =
    some (.file (buildScript source).toUTF8)
  lib : entryAt files (libPath directory) =
    some (.file (libSource preamble source).toUTF8)

/-- The checker reads what is written. -/
theorem patchCurrent_eq_of_written {otherSource otherDependency : Role}
    (lawful : tools.format.Lawful manifestComment)
    (manifestFormed : manifest.WellFormed)
    (featuresFormed : converted.WellFormed)
    (written : Written tools directory source dependency manifest converted
      preamble files) :
    ∃ patched, patchManifest tools.release manifest converted source
        dependency = .ok patched ∧
      patchCurrent tools directory otherSource otherDependency files =
        manifestCurrent tools.release patched (buildScript source)
          (libSource preamble source) otherSource otherDependency := by
  obtain ⟨patched, printed, generated, prints, manifestAt⟩ := written.manifest
  have present : isFile files (manifestPath directory) ∧
      isFile files (buildPath directory) ∧
      isFile files (libPath directory) :=
    ⟨isFile_iff.mpr ⟨_, manifestAt⟩, isFile_iff.mpr ⟨_, written.build⟩,
      isFile_iff.mpr ⟨_, written.lib⟩⟩
  have parses : tools.format.fromStr (manifestComment ++ printed) =
      some patched :=
    lawful.roundTrip
      (wellFormed_patchManifest generated manifestFormed featuresFormed)
      prints
  refine ⟨patched, generated, ?_⟩
  rw [patchCurrent, if_neg (not_not.mpr present), readText_eq written.build,
    readText_eq written.lib, readText_eq manifestAt]
  simp only [orElse, ok_bind, parses]

/-- A patch is current for the roles that it is written for, and for no
others. -/
theorem patchCurrent_of_written {root original : Table}
    {otherSource otherDependency : Role}
    (lawful : tools.format.Lawful manifestComment)
    (rootFormed : root.WellFormed) (featuresFormed : original.WellFormed)
    (forwardable : Forwardable root original)
    (noHost : hostOf (.table root) = none)
    (noExport : Text.contains preamble hostExport = false)
    (written : Written tools directory source dependency (.table root)
      (.table original) preamble files) :
    patchCurrent tools directory otherSource otherDependency files =
      .ok (decide (otherSource = source ∧
        otherDependency = dependency)) := by
  obtain ⟨patched, generated, reads⟩ :=
    @patchCurrent_eq_of_written _ tools directory _ _ preamble source
      dependency files otherSource otherDependency lawful rootFormed
      featuresFormed written
  obtain ⟨_, entries, same, rfl, isPatched⟩ := patchManifest_eq_ok generated
  cases same
  rw [reads]
  exact manifestCurrent_patched rootFormed forwardable noHost isPatched
    (contains_buildScript source) (by simp [contains_libSource, noExport])

/-! ## Writing -/

section Writing

variable {other : Path}

theorem manifestPath_ne_buildPath :
    manifestPath directory ≠ buildPath directory := by
  simp [manifestPath, buildPath]

theorem manifestPath_ne_libPath :
    manifestPath directory ≠ libPath directory := by
  simp [manifestPath, libPath]

theorem buildPath_ne_libPath : buildPath directory ≠ libPath directory := by
  simp [buildPath, libPath]

theorem keeps_provides :
    Preserves (Provides tools path features manifest converted preamble)
      (Effect.createDirAll other) := by
  intro world provides
  obtain ⟨text, read, parsed⟩ := provides.manifestText
  obtain ⟨lib, libRead, libParsed⟩ := provides.libText
  have manifestKept := @keeps_readText _ (manifestPath path)
    (Effect.createDirAll other) text (fun _ => keeps_createDirAll) world read
  have libKept := @keeps_readText _ (libPath path)
    (Effect.createDirAll other) lib (fun _ => keeps_createDirAll)
    world libRead
  revert manifestKept libKept
  split
  · exact fun manifestKept libKept =>
      ⟨⟨text, manifestKept, parsed⟩, provides.features,
        ⟨lib, libKept, libParsed⟩⟩
  · exact fun manifestKept libKept =>
      ⟨⟨text, manifestKept, parsed⟩, provides.features,
        ⟨lib, libKept, libParsed⟩⟩

/-- What is read decides what is written. -/
theorem generateTexts_of_provides {world : World}
    (provides : Provides tools path features manifest converted preamble
      world.files) :
    ∃ sourceRoot, cratePreamble tools sourceRoot = some preamble ∧
      generateTexts tools path features source dependency world =
        match patchManifest tools.release manifest converted source
            dependency with
        | .error error => .error error world
        | .ok patched =>
            match tools.format.toString patched with
            | none => .error (.message "unsupported value") world
            | some printed => .ok (printed, sourceRoot) world := by
  obtain ⟨text, read, parsed⟩ := provides.manifestText
  obtain ⟨lib, libRead, libParsed⟩ := provides.libText
  refine ⟨lib, libParsed, ?_⟩
  simp only [generateTexts, Effect.readToString, Effect.query, Bind.bind,
    EStateM.bind, Effect.okOr, Pure.pure, EStateM.pure, read, parsed,
    provides.features]
  cases patchManifest tools.release manifest converted source dependency with
  | error error => rfl
  | ok patched =>
      simp only [ofExcept, Pure.pure, EStateM.pure, libRead]
      cases tools.format.toString patched with
      | none => rfl
      | some printed => rfl

/-- The three files with given texts. -/
structure HasTexts (directory : Path) (printed preamble : String)
    (source : Role) (files : Files) : Prop where
  manifest : entryAt files (manifestPath directory) =
    some (.file (manifestComment ++ printed).toUTF8)
  build : entryAt files (buildPath directory) =
    some (.file (buildScript source).toUTF8)
  lib : entryAt files (libPath directory) =
    some (.file (libSource preamble source).toUTF8)

theorem writeTexts_of_preamble {printed sourceRoot : String}
    (parsed : cratePreamble tools sourceRoot = some preamble) :
    writeTexts tools directory printed sourceRoot source =
      (Effect.write (manifestPath directory)
          (manifestComment ++ printed).toUTF8 >>= fun _ =>
        Effect.write (buildPath directory) (buildScript source).toUTF8 >>=
          fun _ => Effect.write (libPath directory)
            (libSource preamble source).toUTF8) := by
  rw [writeTexts, parsed]
  rfl

theorem after_writeTexts {printed sourceRoot : String}
    (parsed : cratePreamble tools sourceRoot = some preamble) :
    Triple (fun _ => True)
      (writeTexts tools directory printed sourceRoot source)
      (fun _ => HasTexts directory printed preamble source)
      (fun _ => True) := by
  rw [writeTexts_of_preamble parsed]
  have second : Triple
      (fun files => entryAt files (manifestPath directory) =
        some (.file (manifestComment ++ printed).toUTF8))
      (Effect.write (buildPath directory) (buildScript source).toUTF8)
      (fun _ files => entryAt files (manifestPath directory) =
          some (.file (manifestComment ++ printed).toUTF8) ∧
        entryAt files (buildPath directory) =
          some (.file (buildScript source).toUTF8)) (fun _ => True) :=
    (Triple.and (keeps_write_of_ne manifestPath_ne_buildPath)
      after_write).consequence (fun _ there => ⟨there, trivial⟩)
      (fun _ _ => id) fun _ _ => trivial
  have third : Triple
      (fun files => entryAt files (manifestPath directory) =
          some (.file (manifestComment ++ printed).toUTF8) ∧
        entryAt files (buildPath directory) =
          some (.file (buildScript source).toUTF8))
      (Effect.write (libPath directory) (libSource preamble source).toUTF8)
      (fun _ => HasTexts directory printed preamble source)
      (fun _ => True) :=
    ((Triple.and (keeps_write_of_ne manifestPath_ne_libPath)
      (keeps_write_of_ne buildPath_ne_libPath)).and after_write).consequence
      (fun _ there => ⟨there, trivial⟩)
      (fun _ _ ⟨⟨manifest, build⟩, lib⟩ => ⟨manifest, build, lib⟩)
      fun _ _ => trivial
  exact .bind after_write fun _ => .bind second fun _ => third

/-- A patch can be written: its directories are there or can be made, and no
directory is where a file goes. -/
structure Patchable (directory : Path) (files : Files) : Prop where
  creatable : Creatable files (directory ++ ["src"])
  manifest : entryAt files (manifestPath directory) ≠ some .directory
  build : entryAt files (buildPath directory) ≠ some .directory
  lib : entryAt files (libPath directory) ≠ some .directory

/-- The same once the directories are made. -/
structure Open (directory : Path) (files : Files) : Prop where
  rooted : Rooted files (directory ++ ["src"])
  manifest : entryAt files (manifestPath directory) ≠ some .directory
  build : entryAt files (buildPath directory) ≠ some .directory
  lib : entryAt files (libPath directory) ≠ some .directory

theorem keeps_open {contents : ByteArray} :
    Preserves (Open directory) (Effect.write other contents) := by
  have kept := ((Triple.and
    (keeps_rooted fun _ _ => keeps_write :
      Preserves (fun files => Rooted files (directory ++ ["src"]))
        (Effect.write other contents))
    (keeps_notDirectory : Preserves (fun files =>
      entryAt files (manifestPath directory) ≠ some .directory) _)).and
    (keeps_notDirectory : Preserves (fun files =>
      entryAt files (buildPath directory) ≠ some .directory) _)).and
    (keeps_notDirectory : Preserves (fun files =>
      entryAt files (libPath directory) ≠ some .directory) _)
  exact kept.consequence
    (fun _ open_ => ⟨⟨⟨open_.rooted, open_.manifest⟩, open_.build⟩,
      open_.lib⟩)
    (fun _ _ ⟨⟨⟨rooted, manifest⟩, build⟩, lib⟩ =>
      ⟨rooted, manifest, build, lib⟩)
    (fun _ ⟨⟨⟨rooted, manifest⟩, build⟩, lib⟩ =>
      ⟨rooted, manifest, build, lib⟩)

theorem succeeds_writeOpen {contents : ByteArray}
    (above : other.dropLast <+: directory ++ ["src"])
    (free : ∀ files, Open directory files →
      entryAt files other ≠ some .directory) :
    Succeeds (Open directory) (Effect.write other contents)
      (fun _ => Open directory) := by
  refine (succeeds_write.consequence (fun files open_ => ?_)
    fun _ _ => id).of_triple keeps_open |>.consequence (fun _ => id)
      fun _ _ => And.right
  have present := open_.rooted _ above
  simp [writable, isDirectory, present, free files open_]

theorem succeeds_writeTexts {printed sourceRoot : String}
    (parsed : cratePreamble tools sourceRoot = some preamble) :
    Succeeds (Open directory)
      (writeTexts tools directory printed sourceRoot source)
      (fun _ => HasTexts directory printed preamble source) := by
  have written : Succeeds (Open directory)
      (writeTexts tools directory printed sourceRoot source)
      (fun _ => Open directory) := by
    rw [writeTexts_of_preamble parsed]
    refine .bind (succeeds_writeOpen ?_ fun _ open_ => open_.manifest)
      fun _ => .bind (succeeds_writeOpen ?_ fun _ open_ => open_.build)
        fun _ => succeeds_writeOpen ?_ fun _ open_ => open_.lib
    · simp [manifestPath]
    · simp [buildPath]
    · rw [libPath, List.dropLast_append_of_ne_nil (by simp)]
      exact List.prefix_rfl
  exact (written.of_triple ((after_writeTexts parsed).consequence
    (fun _ _ => trivial) (fun _ _ => id) fun _ => id)).consequence
      (fun _ => id) fun _ _ => And.right

/-- If the patch is written, it is the one for this source. -/
theorem after_writePatch :
    Triple (Provides tools path features manifest converted preamble)
      (writePatch tools directory path features source dependency)
      (fun _ => Written tools directory source dependency manifest converted
        preamble) (fun _ => True) := by
  refine .bind (keeps_provides.consequence (fun _ => id) (fun _ _ => id)
    fun _ _ => trivial) fun _ => ?_
  intro world provides
  obtain ⟨sourceRoot, parsed, reads⟩ :=
    @generateTexts_of_provides _ tools path features manifest converted
      preamble source dependency world provides
  simp only [Bind.bind, EStateM.bind, reads]
  cases generated : patchManifest tools.release manifest converted source
      dependency with
  | error error => trivial
  | ok patched =>
      dsimp only
      cases prints : tools.format.toString patched with
      | none => trivial
      | some printed =>
          have texts := @after_writeTexts _ tools directory preamble source
            printed sourceRoot parsed world trivial
          revert texts
          dsimp only
          split
          · exact fun texts => ⟨⟨patched, printed, generated, prints,
              texts.manifest⟩, texts.build, texts.lib⟩
          · exact id

theorem apart_src {name : String} (different : name ≠ "src") :
    ¬ directory ++ [name] <+: directory ++ ["src"] := by
  simp [different]

theorem libPath_not_above : ¬ libPath directory <+: directory ++ ["src"] := by
  intro inside
  have longer := inside.length_le
  simp [libPath] at longer

theorem succeeds_openPatch :
    Succeeds (Patchable directory)
      (Effect.createDirAll (directory ++ ["src"]))
      (fun _ => Open directory) := by
  have free : Triple
      (fun files => True ∧
        entryAt files (manifestPath directory) ≠ some .directory ∧
        entryAt files (buildPath directory) ≠ some .directory ∧
        entryAt files (libPath directory) ≠ some .directory)
      (Effect.createDirAll (directory ++ ["src"]))
      (fun _ files =>
        entryAt files (manifestPath directory) ≠ some .directory ∧
        entryAt files (buildPath directory) ≠ some .directory ∧
        entryAt files (libPath directory) ≠ some .directory)
      (fun files =>
        entryAt files (manifestPath directory) ≠ some .directory ∧
        entryAt files (buildPath directory) ≠ some .directory ∧
        entryAt files (libPath directory) ≠ some .directory) := by
    refine Triple.of_agree (fun base _ => preserves_above) ?_
    intro base files agree
    have manifest : ¬ manifestPath directory <+: directory ++ ["src"] :=
      apart_src (by decide)
    have build : ¬ buildPath directory <+: directory ++ ["src"] :=
      apart_src (by decide)
    rw [agree _ manifest, agree _ build, agree _ libPath_not_above]
    exact id
  have made := (succeeds_createDirAll.consequence
    (fun files (patchable : Patchable directory files) => patchable.creatable)
    fun _ _ => id).of_triple (free.consequence
      (fun files patchable => ⟨trivial, patchable.manifest, patchable.build,
        patchable.lib⟩) (fun _ _ => id) fun _ => id)
  exact made.consequence (fun _ => id)
    fun _ _ ⟨rooted, manifest, build, lib⟩ => ⟨rooted, manifest, build, lib⟩

theorem succeeds_writePatch {patched : Value} {printed : String}
    (generated : patchManifest tools.release manifest converted source
      dependency = .ok patched)
    (prints : tools.format.toString patched = some printed) :
    Succeeds (fun files => Patchable directory files ∧
        Provides tools path features manifest converted preamble files)
      (writePatch tools directory path features source dependency)
      (fun _ => Written tools directory source dependency manifest converted
        preamble) := by
  have returned : Succeeds (fun files => Patchable directory files ∧
        Provides tools path features manifest converted preamble files)
      (writePatch tools directory path features source dependency)
      (fun _ _ => True) := by
    refine .bind (succeeds_openPatch.frame keeps_provides) fun _ => ?_
    intro files ⟨open_, provides⟩
    obtain ⟨sourceRoot, parsed, reads⟩ :=
      @generateTexts_of_provides _ tools path features manifest converted
        preamble source dependency ⟨files, []⟩ provides
    obtain ⟨value, left, ran, -⟩ :=
      @succeeds_writeTexts _ tools directory preamble source printed
        sourceRoot parsed files open_
    refine ⟨value, left, ?_, trivial⟩
    simp only [Bind.bind, EStateM.bind, reads, generated, prints, ran]
  exact (returned.of_triple (after_writePatch.consequence (fun _ => And.right)
    (fun _ _ => id) fun _ => id)).consequence (fun _ => id)
      fun _ _ => And.right

end Writing

end Telekio.Patching
