import Telekio.Patching.Guard

/-!
# Removing what `init` made

`remove` of `telekio/src/project.rs`. It takes back what `init` wrote to the
manifest, and deletes the directory `.telekio` on the word of the checks.
-/

namespace Telekio.Patching

open Telekio.Disk
open Telekio.Toml

variable {json layout : Type} (editor : Editor layout)

/-- The table under a key that is there. -/
def tableUnder (key message : String) (entries : List (String × Item)) :
    Except Error (List (String × Item)) :=
  orElse ((entries.lookup key).bind Item.asTable) (.message message)

def removePatch (document : Document layout) :
    Except Error (Document layout) := do
  let patches ←
    tableUnder "patch" "patch is not a table" document.entries
  let cratesIo ←
    tableUnder "crates-io" "patch.crates-io is not a table" patches
  let cratesIo := Keyed.remove "tokio" cratesIo
  let patches :=
    if cratesIo = [] then Keyed.remove "crates-io" patches
    else Keyed.insert "crates-io" (.table cratesIo) patches
  return { document with
    entries :=
      if patches = [] then Keyed.remove "patch" document.entries
      else Keyed.insert "patch" (.table patches) document.entries }

def remove (manifest : Path) : Effect Unit := do
  let root ← Effect.okOr (parent manifest)
    (.message "manifest has no parent")
  let text ← Effect.readToString manifest
  let document ← Effect.okOr (editor.parse text) (.message "invalid TOML")
  if patchPathOf document ≠ some patchPath then
    throw (.message "this package does not use its Telekio patch")
  else
    let checkedPatch ← Effect.query fun files =>
      validatePatch files (directoryOf root)
    ofExcept checkedPatch
    let checkedParent ← Effect.query fun files =>
      validateParent files (telekioOf root)
    ofExcept checkedParent
    let document ← ofExcept (removePatch document)
    Effect.write manifest (editor.print document).toUTF8
    Effect.removeDirAll (telekioOf root)

variable {editor} {document changed : Document layout}

/-- The tables of patches for each registry. -/
def patchesOf (document : Document layout) : List (String × Item) :=
  ((document.entries.lookup "patch").bind Item.asTable).getD []

/-- The patches for the crates of `crates-io`. -/
def cratesIoOf (document : Document layout) : List (String × Item) :=
  (((patchesOf document).lookup "crates-io").bind Item.asTable).getD []

/-- A table that has entries, or nothing. -/
def Filled (item : Option Item) : Prop :=
  ∀ found, item = some found → ∃ entries, entries ≠ [] ∧ found = .table entries

/-- The entry of Tokio is gone, with the tables that are empty without it;
the rest is as it was. -/
structure Undone (document final : Document layout) : Prop where
  others : ∀ key, key ≠ "patch" →
    final.entries.lookup key = document.entries.lookup key
  registries : ∀ name, name ≠ "crates-io" →
    (patchesOf final).lookup name = (patchesOf document).lookup name
  patches : ∀ name, name ≠ "tokio" →
    (cratesIoOf final).lookup name = (cratesIoOf document).lookup name
  removed : tokioPatch final = none
  filled : Filled (final.entries.lookup "patch")
  filledIn : Filled ((patchesOf final).lookup "crates-io")

theorem tableUnder_eq_ok {key message : String}
    {entries found : List (String × Item)}
    (there : entries.lookup key = some (.table found)) :
    tableUnder key message entries = .ok found := by
  rw [tableUnder, there]
  rfl

theorem taken_eq {item : Option Item} {found : List (String × Item)}
    (taken : item = none ∧ found = [] ∨ item = some (.table found)) :
    (item.bind Item.asTable).getD [] = found := by
  rcases taken with ⟨rfl, rfl⟩ | rfl
  · rfl
  · rfl

theorem tokioPatch_of_filled
    (filled : Filled (document.entries.lookup "patch"))
    (filledIn : Filled ((patchesOf document).lookup "crates-io")) :
    tokioPatch document = (cratesIoOf document).lookup "tokio" := by
  unfold cratesIoOf at *
  unfold patchesOf at *
  unfold tokioPatch
  cases patch : document.entries.lookup "patch" with
  | none => rfl
  | some item =>
      obtain ⟨patches, -, rfl⟩ := filled item patch
      rw [patch] at filledIn
      have inside : ((some (Item.table patches)).bind Item.asTable).getD [] =
          patches :=
        rfl
      rw [inside] at filledIn ⊢
      cases cratesIo : patches.lookup "crates-io" with
      | none => simp [Item.get, cratesIo]
      | some item =>
          obtain ⟨entries, -, rfl⟩ := filledIn item cratesIo
          simp [Item.get, Item.asTable, cratesIo]

/-- The tables that a document is changed in. -/
theorem setPatch_eq_ok (set : setPatch document = .ok changed) :
    changed.entries = Keyed.insert "patch" (.table
      (Keyed.insert "crates-io" (.table (Keyed.insert "tokio"
        (.inlineTable [("path", .string patchPath)]) (cratesIoOf document)))
        (patchesOf document))) document.entries := by
  simp only [setPatch, bind_eq_ok] at set
  obtain ⟨patches, taken, cratesIo, takenIn, set⟩ := set
  have patchesEq : patchesOf document = patches :=
    taken_eq (tableOrNew_eq_ok_iff.mp taken)
  have cratesIoEq : cratesIoOf document = cratesIo := by
    rw [cratesIoOf, patchesEq]
    exact taken_eq (tableOrNew_eq_ok_iff.mp takenIn)
  cases set
  rw [patchesEq, cratesIoEq]

/-- What is taken back of a document that was changed. -/
def strippedCratesIo (document : Document layout) : List (String × Item) :=
  Keyed.remove "tokio" (cratesIoOf document)

def strippedPatches (document : Document layout) : List (String × Item) :=
  if strippedCratesIo document = [] then
    Keyed.remove "crates-io" (patchesOf document)
  else
    Keyed.insert "crates-io" (.table (strippedCratesIo document))
      (Keyed.insert "crates-io" (.table (Keyed.insert "tokio"
        (.inlineTable [("path", .string patchPath)]) (cratesIoOf document)))
        (patchesOf document))

theorem removePatch_of_setPatch {read : Document layout}
    (set : setPatch document = .ok changed)
    (same : read.entries = changed.entries) :
    removePatch read = .ok { read with
      entries :=
        if strippedPatches document = [] then
          Keyed.remove "patch" read.entries
        else
          Keyed.insert "patch" (.table (strippedPatches document))
            read.entries } := by
  have entries := same.trans (setPatch_eq_ok set)
  have patch := @tableUnder_eq_ok _ "patch is not a table" _ _
    ((congrArg (·.lookup "patch") entries).trans Keyed.lookup_insert_self)
  rw [removePatch, patch, ok_bind,
    tableUnder_eq_ok Keyed.lookup_insert_self, ok_bind]
  simp only [Keyed.remove_insert]
  rfl

theorem lookup_strippedCratesIo {name : String} :
    (strippedCratesIo document).lookup name =
      if name = "tokio" then none else (cratesIoOf document).lookup name :=
  Keyed.lookup_remove

theorem lookup_strippedPatches {name : String} :
    (strippedPatches document).lookup name =
      if name = "crates-io" then
        if strippedCratesIo document = [] then none
        else some (.table (strippedCratesIo document))
      else (patchesOf document).lookup name := by
  unfold strippedPatches
  split
  · exact Keyed.lookup_remove
  · rw [Keyed.lookup_insert]
    split
    · rfl
    · rename_i different
      exact Keyed.lookup_insert_of_ne different

/-- What is left of a document that was changed and stripped. -/
theorem undone_of_setPatch {final : Document layout}
    (set : setPatch document = .ok changed)
    (stripped : final.entries =
      if strippedPatches document = [] then
        Keyed.remove "patch" changed.entries
      else
        Keyed.insert "patch" (.table (strippedPatches document))
          changed.entries) :
    Undone document final := by
  have looked : ∀ key, final.entries.lookup key =
      if key = "patch" then
        if strippedPatches document = [] then none
        else some (.table (strippedPatches document))
      else document.entries.lookup key := by
    intro key
    rw [stripped, setPatch_eq_ok set]
    split
    · rw [Keyed.lookup_remove]
      split
      · rfl
      · rename_i different
        exact Keyed.lookup_insert_of_ne different
    · rw [Keyed.lookup_insert]
      split
      · rfl
      · rename_i different
        exact Keyed.lookup_insert_of_ne different
  have patches : patchesOf final = strippedPatches document := by
    rw [patchesOf, looked, if_pos rfl]
    split
    · rename_i empty
      exact empty.symm
    · rfl
  have cratesIo : cratesIoOf final = strippedCratesIo document := by
    rw [cratesIoOf, patches, lookup_strippedPatches, if_pos rfl]
    split
    · rename_i empty
      exact empty.symm
    · rfl
  have filled : Filled (final.entries.lookup "patch") := by
    intro found there
    rw [looked, if_pos rfl] at there
    split at there
    · cases there
    · rename_i full
      cases there
      exact ⟨_, full, rfl⟩
  have filledIn : Filled ((patchesOf final).lookup "crates-io") := by
    intro found there
    rw [patches, lookup_strippedPatches, if_pos rfl] at there
    split at there
    · cases there
    · rename_i full
      cases there
      exact ⟨_, full, rfl⟩
  refine ⟨?_, ?_, ?_, ?_, filled, filledIn⟩
  · intro key different
    rw [looked, if_neg different]
  · intro name different
    rw [patches, lookup_strippedPatches, if_neg different]
  · intro name different
    rw [cratesIo, lookup_strippedCratesIo, if_neg different]
  · rw [tokioPatch_of_filled filled filledIn, cratesIo,
      lookup_strippedCratesIo, if_pos rfl]

variable {tools : Tools json} {cargo : Cargo json} {role : Role}
variable {root : Path} {files : Files} {world after : World}

/-- The generated files, and their directories. -/
def generatedPaths (root : Path) : List Path :=
  [telekioOf root, directoryOf root, directoryOf root ++ ["src"],
    manifestPath (directoryOf root), buildPath (directoryOf root),
    libPath (directoryOf root)]

theorem telekioOf_prefix {rest : Path} :
    telekioOf root <+: directoryOf root ++ rest := by
  rw [directoryOf, patchOf, List.append_assoc]
  exact List.prefix_append _ _

/-- There is nothing else in `.telekio`. -/
def OnlyGenerated (root : Path) (files : Files) : Prop :=
  ∀ path, telekioOf root <+: path → entryAt files path ≠ none →
    path ∈ generatedPaths root

theorem not_directory_of_validateFile {path : Path}
    (valid : validateFile files path = .ok ()) :
    entryAt files path ≠ some .directory :=
  not_directory_of_readText (readText_of_validateFile valid)

theorem validatePatch_eq_ok_iff {path : Path} :
    validatePatch files path = .ok () ↔
      validateFile files (manifestPath path) = .ok () ∧
      validateFile files (buildPath path) = .ok () ∧
      validateFile files (libPath path) = .ok () ∧
      validateNames ["Cargo.toml", "build.rs", "src"] files path = .ok () ∧
      validateNames ["lib.rs"] files (path ++ ["src"]) = .ok () := by
  simp only [validatePatch, bind_eq_ok]
  constructor
  · rintro ⟨_, manifest, _, build, _, lib, _, inside, below⟩
    exact ⟨manifest, build, lib, inside, below⟩
  · rintro ⟨manifest, build, lib, inside, below⟩
    exact ⟨(), manifest, (), build, (), lib, (), inside, below⟩

/-- A patch that passes the checks has the three files and `src`. -/
theorem mem_of_validPatch {rest : Path} (tree : Tree files)
    (valid : validatePatch files (directoryOf root) = .ok ())
    (present : entryAt files (directoryOf root ++ rest) ≠ none) :
    directoryOf root ++ rest ∈ generatedPaths root := by
  obtain ⟨manifest, build, lib, inside, below⟩ :=
    validatePatch_eq_ok_iff.mp valid
  cases rest with
  | nil => simp [generatedPaths]
  | cons name rest =>
      rw [List.append_cons] at present ⊢
      have there := tree.present_of_prefix (List.prefix_append _ _) present
      have allowed := (validateNames_eq_ok.mp inside).2 name
        (mem_names_of_present there)
      simp only [List.mem_cons, List.not_mem_nil, or_false] at allowed
      rcases allowed with rfl | rfl | rfl
      · have last := tree.nil_of_present
          (not_directory_of_validateFile manifest) present
        simp [last, generatedPaths, manifestPath]
      · have last := tree.nil_of_present
          (not_directory_of_validateFile build) present
        simp [last, generatedPaths, buildPath]
      · cases rest with
        | nil => simp [generatedPaths]
        | cons name rest =>
            rw [List.append_cons] at present ⊢
            have thereIn :=
              tree.present_of_prefix (List.prefix_append _ _) present
            have allowedIn := (validateNames_eq_ok.mp below).2 name
              (mem_names_of_present thereIn)
            simp only [List.mem_singleton] at allowedIn
            subst allowedIn
            have path : directoryOf root ++ ["src"] ++ ["lib.rs"] =
                libPath (directoryOf root) := by
              simp [libPath]
            rw [path] at present ⊢
            have last := tree.nil_of_present
              (not_directory_of_validateFile lib) present
            simp [last, generatedPaths]

/-- What passes the checks has nothing else in `.telekio`. -/
theorem onlyGenerated_of_valid (tree : Tree files)
    (valid : validateDestination (directoryOf root) files = .ok ()) :
    OnlyGenerated root files := by
  obtain ⟨parent, patch⟩ := validateDestination_eq_ok.mp valid
  rintro _ ⟨rest, rfl⟩ present
  cases rest with
  | nil => simp [generatedPaths]
  | cons name rest =>
      rw [List.append_cons] at present ⊢
      have there := tree.present_of_prefix (List.prefix_append _ _) present
      have telekio : validateParent files (telekioOf root) = .ok () := by
        refine parent.resolve_left fun absent => there ?_
        exact tree.vacantBelow absent _ (List.prefix_append _ _)
      have named : name = "tokio" := by
        have allowed := (validateNames_eq_ok.mp telekio).2 name
          (mem_names_of_present there)
        simpa using allowed
      subst named
      exact mem_of_validPatch tree (patch.resolve_left there) present

/-! ## What is made there -/

/-- The directory as `remove` accepts it. -/
structure Generated (root : Path) (files : Files) : Prop where
  only : OnlyGenerated root files
  telekio : entryAt files (telekioOf root) = some .directory
  directory : entryAt files (directoryOf root) = some .directory
  src : entryAt files (directoryOf root ++ ["src"]) = some .directory
  manifest : validateFile files (manifestPath (directoryOf root)) = .ok ()
  build : validateFile files (buildPath (directoryOf root)) = .ok ()
  lib : validateFile files (libPath (directoryOf root)) = .ok ()

theorem Generated.validParent (generated : Generated root files) :
    validateParent files (telekioOf root) = .ok () := by
  refine validateNames_eq_ok.mpr ⟨generated.telekio, ?_⟩
  intro name listed
  have member := generated.only _ (List.prefix_append _ _)
    (present_of_mem_names listed)
  simpa [generatedPaths, directoryOf, patchOf, manifestPath, buildPath,
    libPath] using member

theorem Generated.validPatch (generated : Generated root files) :
    validatePatch files (directoryOf root) = .ok () := by
  refine validatePatch_eq_ok_iff.mpr ⟨generated.manifest, generated.build,
    generated.lib, validateNames_eq_ok.mpr ⟨generated.directory, ?_⟩,
    validateNames_eq_ok.mpr ⟨generated.src, ?_⟩⟩
  · intro name listed
    have member := generated.only _ telekioOf_prefix
      (present_of_mem_names listed)
    simp [generatedPaths, directoryOf, patchOf, manifestPath, buildPath,
      libPath] at member
    simp only [List.mem_cons, List.not_mem_nil, or_false]
    tauto
  · intro name listed
    have present := present_of_mem_names listed
    rw [List.append_assoc] at present
    have member := generated.only _ telekioOf_prefix present
    simpa [generatedPaths, directoryOf, patchOf, manifestPath, buildPath,
      libPath] using member

/-- What `init` checks already, of a directory that is there. -/
theorem generated_of_valid (tree : Tree files)
    (valid : validateDestination (directoryOf root) files = .ok ())
    (present : entryAt files (directoryOf root) ≠ none) :
    Generated root files := by
  have patch := (validateDestination_eq_ok.mp valid).2.resolve_left present
  obtain ⟨manifest, build, lib, inside, below⟩ :=
    validatePatch_eq_ok_iff.mp patch
  have directory := (validateNames_eq_ok.mp inside).1
  exact ⟨onlyGenerated_of_valid tree valid,
    tree.rooted directory _ (List.prefix_append _ _), directory,
    (validateNames_eq_ok.mp below).1, manifest, build, lib⟩

/-- What writing a patch changes. -/
def Writes (directory path : Path) : Prop :=
  path <+: directory ++ ["src"] ∨ path = manifestPath directory ∨
    path = buildPath directory ∨ path = libPath directory

theorem preserves_writePatch_writes {directory path : Path} {features : json}
    {source dependency : Role} {base : Files} :
    Preserves (AgreeOutside (Writes directory) base)
      (writePatch tools directory path features source dependency) :=
  .bind (preserves_createDirAll fun _ _ inside => Or.inl (Or.inl inside))
    fun _ => .bind preserves_generateTexts fun _ =>
      .bind (preserves_write (Or.inr (Or.inl rfl))) fun _ =>
        .bind (preserves_write (Or.inr (Or.inr (Or.inl rfl)))) fun _ =>
          .bind (.okOr _ _) fun _ =>
            preserves_write (Or.inr (Or.inr (Or.inr rfl)))

/-- A patch that is written has its texts, and the directory for them. -/
theorem hasTexts_of_writePatch {directory path : Path} {features : json}
    {source dependency : Role}
    (wrote : writePatch tools directory path features source dependency
      world = .ok () after) :
    (∃ printed preamble,
      HasTexts directory printed preamble source after.files) ∧
      Rooted after.files (directory ++ ["src"]) := by
  obtain ⟨_, made, creates, writes⟩ := Effect.bind_eq_ok.mp wrote
  have rooted := @after_createDirAll (directory ++ ["src"]) (fun _ => True)
    world trivial
  rw [creates] at rooted
  have stays : Preserves (fun files => Rooted files (directory ++ ["src"]))
      (generateTexts tools path features source dependency >>=
        fun found => writeTexts tools directory found.1 found.2 source) :=
    keeps_rooted fun _ _ => .bind preserves_generateTexts fun _ =>
      .bind keeps_write fun _ => .bind keeps_write fun _ =>
        .bind (.okOr _ _) fun _ => keeps_write
  have kept := stays made rooted
  have wroteTexts : (generateTexts tools path features source dependency >>=
      fun found => writeTexts tools directory found.1 found.2 source) made =
        .ok () after := writes
  rw [wroteTexts] at kept
  refine ⟨?_, kept⟩
  obtain ⟨⟨printed, sourceRoot⟩, middle, -, written⟩ :=
    Effect.bind_eq_ok.mp wroteTexts
  cases parsed : cratePreamble tools sourceRoot with
  | none =>
      rw [writeTexts, parsed] at written
      obtain ⟨_, _, -, rest⟩ := Effect.bind_eq_ok.mp written
      obtain ⟨_, _, -, rest⟩ := Effect.bind_eq_ok.mp rest
      obtain ⟨_, _, found, -⟩ := Effect.bind_eq_ok.mp rest
      cases (Effect.okOr_eq_ok.mp found).1
  | some preamble =>
      have texts := @after_writeTexts _ tools directory preamble source
        printed sourceRoot parsed middle trivial
      rw [written] at texts
      exact ⟨printed, preamble, texts⟩

/-- A file is taken for generated if it has the text in it. -/
theorem validateFile_of_contains {path : Path} {text : String}
    (there : entryAt files path = some (.file text.toUTF8))
    (marked : Text.contains text generatedText = true) :
    validateFile files path = .ok () := by
  have inLine := Text.lines_any_contains (by simp [generatedText])
    (by simp [generatedText]) (by simp [generatedText]) marked
  rw [validateFile, readText_eq there, orElse, ok_bind, if_pos inLine]

theorem contains_manifestComment :
    Text.contains manifestComment generatedText = true := by
  simp only [Text.contains, manifestComment, generatedText,
    String.reduceToList]
  decide

theorem contains_buildComment : Text.contains
    "// Generated by Telekio. Prepares Tokio for this target."
    generatedText = true := by
  simp only [Text.contains, generatedText, String.reduceToList]
  decide

theorem contains_libComment :
    Text.contains libComment generatedText = true := by
  simp only [Text.contains, libComment, generatedText, String.reduceToList]
  decide

/-- All that is written is marked. -/
theorem validateFile_of_hasTexts {directory : Path}
    {printed preamble : String} {source : Role}
    (texts : HasTexts directory printed preamble source files) :
    validateFile files (manifestPath directory) = .ok () ∧
      validateFile files (buildPath directory) = .ok () ∧
      validateFile files (libPath directory) = .ok () := by
  refine ⟨validateFile_of_contains texts.manifest ?_,
    validateFile_of_contains texts.build ?_,
    validateFile_of_contains texts.lib ?_⟩
  · exact Text.contains_append_left contains_manifestComment
  · exact Text.contains_append_left
      (Text.contains_append_left contains_buildComment)
  · exact Text.contains_append_left
      (Text.contains_append_right contains_libComment)

theorem validateFile_congr {path : Path} {other : Files}
    (same : entryAt other path = entryAt files path) :
    validateFile other path = validateFile files path := by
  simp only [validateFile, readText_congr same]

theorem mem_of_prefix_pair {first second : String} {rest : Path}
    (above : rest <+: [first, second]) :
    rest = [] ∨ rest = [first] ∨ rest = [first, second] := by
  have listed := (List.mem_inits _ _).mpr above
  simpa using listed

/-- A path below `.telekio` that writing a patch changes is a generated one. -/
theorem mem_of_writes {path : Path} (inside : telekioOf root <+: path)
    (writes : Writes (directoryOf root) path) :
    path ∈ generatedPaths root := by
  rcases writes with above | rfl | rfl | rfl
  · obtain ⟨rest, rfl⟩ := inside
    have split : directoryOf root ++ ["src"] =
        telekioOf root ++ ["tokio", "src"] := by
      simp [directoryOf, patchOf]
    rw [split, List.prefix_append_right_inj] at above
    rcases mem_of_prefix_pair above with rfl | rfl | rfl
    · rw [List.append_nil]
      simp [generatedPaths]
    · simp [generatedPaths, directoryOf, patchOf]
    · simp [generatedPaths, split]
  · simp [generatedPaths]
  · simp [generatedPaths]
  · simp [generatedPaths]

/-- A preparation leaves the patch and nothing else. -/
theorem generated_of_regeneratePatch {source dependency : Role}
    (tree : Tree world.files)
    (valid : validateDestination (directoryOf root) world.files = .ok ())
    (ran : regeneratePatch tools cargo (directoryOf root) source dependency
      world = .ok () after) : Generated root after.files := by
  rw [directoryOf, regeneratePatch_patchOf] at ran
  obtain ⟨found, prepared, prepares, ran⟩ := Effect.bind_eq_ok.mp ran
  obtain ⟨_, written, wrote, removed⟩ := Effect.bind_eq_ok.mp ran
  have filled := @preserves_preparePackage _ cargo (cacheOf (telekioOf root))
    "tokio" tokioVersion world.files world (.refl _ _)
  rw [prepareTokioIn] at prepares
  rw [prepares] at filled
  have changed := @preserves_writePatch_writes _ tools (directoryOf root)
    found.1 found.2 source dependency prepared.files prepared (.refl _ _)
  rw [directoryOf, wrote] at changed
  have gone := @after_removeDirAll (cacheOf (telekioOf root))
    (fun _ => True) written trivial
  have same := @preserves_removeDirAll (cacheOf (telekioOf root) <+: ·)
    written.files (cacheOf (telekioOf root)) (fun _ => id) written (.refl _ _)
  rw [removed] at gone same
  obtain ⟨⟨printed, preamble, texts⟩, rooted⟩ := hasTexts_of_writePatch wrote
  obtain ⟨manifest, build, lib⟩ := validateFile_of_hasTexts texts
  have kept : ∀ {rest}, entryAt after.files (directoryOf root ++ rest) =
      entryAt written.files (directoryOf root ++ rest) :=
    fun {rest} => same _ not_cacheOf_prefix
  have telekioKept : entryAt after.files (telekioOf root) =
      entryAt written.files (telekioOf root) :=
    same _ (not_cacheOf_prefix_of_above List.prefix_rfl)
  have directoryKept : entryAt after.files (directoryOf root) =
      entryAt written.files (directoryOf root) := by
    have whole := @kept []
    rwa [List.append_nil] at whole
  refine ⟨?_, ?_, ?_, ?_, ?_, ?_, ?_⟩
  · intro path inside present
    by_cases cached : cacheOf (telekioOf root) <+: path
    · exact absurd (gone path cached) present
    · rw [same path cached] at present
      by_cases writes : Writes (directoryOf root) path
      · exact mem_of_writes inside writes
      · rw [changed path writes] at present
        by_cases along : Along (cacheOf (telekioOf root)) path
        · -- above the cache there is only `.telekio`
          rcases List.prefix_concat_iff.mp
            (along.resolve_left cached) with rfl | above
          · exact absurd List.prefix_rfl cached
          · rw [List.IsPrefix.eq_of_length_le above inside.length_le]
            simp [generatedPaths]
        · rw [filled path along] at present
          exact onlyGenerated_of_valid tree valid path inside present
  · rw [telekioKept]
    exact rooted _ telekioOf_prefix
  · rw [directoryKept]
    exact rooted _ (List.prefix_append _ _)
  · rw [kept]
    exact rooted.directory
  · rw [manifestPath, validateFile_congr kept]
    exact manifest
  · rw [buildPath, validateFile_congr kept]
    exact build
  · rw [libPath, validateFile_congr kept]
    exact lib

theorem Generated.of_agree {other : Files} (generated : Generated root files)
    (same : ∀ path, telekioOf root <+: path →
      entryAt other path = entryAt files path) : Generated root other := by
  refine ⟨?_, ?_, ?_, ?_, ?_, ?_, ?_⟩
  · intro path inside present
    rw [same path inside] at present
    exact generated.only path inside present
  · rw [same _ List.prefix_rfl]
    exact generated.telekio
  · have there := same (directoryOf root) (List.prefix_append _ _)
    exact there.trans generated.directory
  · rw [same _ telekioOf_prefix]
    exact generated.src
  · rw [manifestPath, validateFile_congr (same _ telekioOf_prefix)]
    exact generated.manifest
  · rw [buildPath, validateFile_congr (same _ telekioOf_prefix)]
    exact generated.build
  · rw [libPath, validateFile_congr (same _ telekioOf_prefix)]
    exact generated.lib

/-- A preparation that returns has made the patch, or found it there. -/
theorem generated_of_preparePatch (tree : Tree world.files)
    (valid : validateDestination (directoryOf root) world.files = .ok ())
    (ran : preparePatch tools cargo (directoryOf root) role world =
      .ok () after) : Generated root after.files := by
  rw [preparePatch, preparePatchWith, Effect.query_bind] at ran
  cases checked : patchCurrent tools (directoryOf root) role role
      world.files with
  | error error =>
      rw [checked] at ran
      cases ran
  | ok current =>
      rw [checked] at ran
      cases current with
      | true =>
          cases ran
          obtain ⟨contents, there⟩ :=
            isFile_iff.mp (isFile_of_patchCurrent checked)
          have present : entryAt world.files
              (manifestPath (directoryOf root)) ≠ none := by
            rw [there]
            simp
          exact generated_of_valid tree valid
            (tree.present_of_prefix (List.prefix_append _ _) present)
      | false => exact generated_of_regeneratePatch tree valid ran

/-- Nothing changes outside `.telekio`. -/
theorem outside_of_preparePatch {path : Path}
    (rooted : Rooted world.files root)
    (ran : preparePatch tools cargo (directoryOf root) role world =
      .ok () after) (outside : ¬ telekioOf root <+: path) :
    entryAt after.files path = entryAt world.files path := by
  have ranWith : preparePatchWith tools cargo (patchOf (telekioOf root)) role
      role world = .ok () after := ran
  by_cases above : path <+: telekioOf root
  · have higher : path <+: root := by
      rcases List.prefix_concat_iff.mp above with rfl | higher
      · exact absurd List.prefix_rfl outside
      · exact higher
    have kept := preserves_preparePatchWith (@keeps_regeneratePatch _ tools
      cargo role role (telekioOf root) path above) world (rooted path higher)
    rw [ranWith] at kept
    exact kept.trans (rooted path higher).symm
  · have agree := preserves_preparePatchWith (@preserves_regeneratePatch _
      tools cargo role role (telekioOf root) world.files) world (.refl _ _)
    rw [ranWith] at agree
    refine agree path ?_
    rintro (below | higher)
    · exact outside below
    · exact above higher

/-! ## Both commands -/

/-- What is printed of a document without the patch parses to the same
entries. -/
def Editor.LawfulRemoval (editor : Editor layout) : Prop :=
  ∀ text document changed, editor.parse text = some document →
    removePatch document = .ok changed →
    ∃ layout, editor.parse (editor.print changed) =
      some ⟨changed.entries, layout⟩

/-- What is gone is generated. -/
def DeletesGenerated (root : Path) (before after : Files) : Prop :=
  ∀ path, entryAt before path ≠ none → entryAt after path = none →
    path ∈ generatedPaths root

/-- A run of `init` that returns, step by step. -/
theorem init_eq_ok (reads : Reads editor root document world.files)
    (returned : init editor tools cargo (manifestPath root) role world =
      .ok () after) :
    validateDestination (directoryOf root) world.files = .ok () ∧
      ∃ prepared changed,
        preparePatch tools cargo (directoryOf root) role world =
          .ok () prepared ∧
        setPatch document = .ok changed ∧
        Effect.write (manifestPath root) (editor.print changed).toUTF8
          prepared = .ok () after := by
  have valid := validateDestination_of_init returned
  rw [init_of_reads reads] at returned
  split at returned
  · cases returned
  · rw [patchProject_of_valid valid] at returned
    obtain ⟨_, prepared, ran, rest⟩ := Effect.bind_eq_ok.mp returned
    obtain ⟨changed, middle, set, wrote⟩ := Effect.bind_eq_ok.mp rest
    cases settable : setPatch document with
    | error error =>
        rw [settable] at set
        cases set
    | ok found =>
        rw [settable] at set
        cases set
        exact ⟨valid, prepared, changed, ran, rfl, wrote⟩

/-- In a directory that is generated `remove` succeeds. -/
theorem remove_of_generated {read final : Document layout}
    (reads : Reads editor root read files)
    (named : patchPathOf read = some patchPath)
    (generated : Generated root files)
    (there : entryAt files root = some .directory)
    (removed : removePatch read = .ok final) :
    ∃ last, remove editor (manifestPath root) ⟨files, []⟩ = .ok () last ∧
      entryAt last.files (manifestPath root) =
        some (.file (editor.print final).toUTF8) ∧
      (∀ path, ¬ telekioOf root <+: path → path ≠ manifestPath root →
        entryAt last.files path = entryAt files path) ∧
      VacantBelow last.files (telekioOf root) := by
  obtain ⟨text, legible, parsed⟩ := reads
  obtain ⟨written, wrote, manifest, same⟩ := @writesManifest root files
    (editor.print final).toUTF8 there
      (not_directory_of_readText ⟨text, legible⟩)
  have apart : telekioOf root ≠ manifestPath root := by
    simp [telekioOf, manifestPath]
  have telekio : entryAt written (telekioOf root) = some .directory :=
    (same _ apart).trans generated.telekio
  have proper : telekioOf root ≠ [] := by simp [telekioOf]
  obtain ⟨_, last, deleted, -⟩ :=
    succeeds_removeDirAll proper written telekio
  have gone := @after_removeDirAll (telekioOf root) (fun _ => True)
    ⟨written, []⟩ trivial
  have kept := @preserves_removeDirAll (telekioOf root <+: ·) written
    (telekioOf root) (fun _ => id) ⟨written, []⟩ (.refl _ _)
  rw [deleted] at gone kept
  have beside : ¬ telekioOf root <+: manifestPath root := by
    simp [telekioOf, manifestPath]
  refine ⟨⟨last, []⟩, ?_, (kept _ beside).trans manifest, ?_, gone⟩
  · have readToString : Effect.readToString (manifestPath root)
        ⟨files, []⟩ = .ok text ⟨files, []⟩ :=
      Effect.readToString_eq_ok.mpr ⟨legible, rfl⟩
    rw [remove, parent_manifestPath]
    simp only [Effect.okOr, pure_bind]
    rw [Effect.bind_of_ok readToString, parsed]
    simp only [pure_bind, named, ne_eq, not_true_eq_false, if_false]
    rw [Effect.query_bind, generated.validPatch]
    simp only [ofExcept, pure_bind]
    rw [Effect.query_bind, generated.validParent]
    simp only [pure_bind, removed]
    rw [Effect.bind_of_ok wrote]
    exact deleted
  · intro path outside different
    exact (kept path outside).trans (same path different)

/-- After an `init` that returns, `remove` succeeds. The manifest is the one
from before without the patch of Tokio and the tables that are empty without
it, `.telekio` is gone, and what was in it was generated. -/
theorem remove_of_init (editorLawful : editor.Lawful)
    (removalLawful : editor.LawfulRemoval) (tree : Tree world.files)
    (reads : Reads editor root document world.files)
    (returned : init editor tools cargo (manifestPath root) role world =
      .ok () after) :
    ∃ last final,
      remove editor (manifestPath root) ⟨after.files, []⟩ = .ok () last ∧
      Reads editor root final last.files ∧ Undone document final ∧
      (∀ path, ¬ telekioOf root <+: path → path ≠ manifestPath root →
        entryAt last.files path = entryAt world.files path) ∧
      VacantBelow last.files (telekioOf root) ∧
      DeletesGenerated root after.files last.files ∧
      DeletesGenerated root world.files last.files := by
  obtain ⟨valid, prepared, changed, ran, set, wrote⟩ :=
    init_eq_ok reads returned
  obtain ⟨text, read, parsed⟩ := reads
  have rooted : Rooted world.files root :=
    tree.rooted (tree root "Cargo.toml" (present_of_readText read))
  -- what `init` leaves
  have written := @after_write (manifestPath root)
    (editor.print changed).toUTF8 (fun _ => True) prepared trivial
  have same := @preserves_write (· = manifestPath root) prepared.files
    (manifestPath root) (editor.print changed).toUTF8 rfl prepared (.refl _ _)
  rw [wrote] at written same
  have beside : ∀ path, telekioOf root <+: path → path ≠ manifestPath root := by
    rintro path inside rfl
    simp [telekioOf, manifestPath] at inside
  have generated : Generated root after.files :=
    (generated_of_preparePatch tree valid ran).of_agree
      fun path inside => same path (beside path inside)
  have outside : ∀ path, ¬ telekioOf root <+: path →
      path ≠ manifestPath root →
      entryAt after.files path = entryAt world.files path :=
    fun path apart different => (same path different).trans
      (outside_of_preparePatch rooted ran apart)
  have rootApart : ¬ telekioOf root <+: root := by
    intro longer
    have lengths := longer.length_le
    simp [telekioOf] at lengths
  have rootOther : root ≠ manifestPath root := by simp [manifestPath]
  have there : entryAt after.files root = some .directory :=
    (outside root rootApart rootOther).trans rooted.directory
  -- what `remove` makes of it
  obtain ⟨layout, parses⟩ := editorLawful text document changed parsed set
  have readsChanged : Reads editor root ⟨changed.entries, layout⟩
      after.files :=
    ⟨_, readText_eq written, parses⟩
  have named : patchPathOf changed = some patchPath :=
    patchPathOf_setPatch set
  have namedRead : patchPathOf (⟨changed.entries, layout⟩ : Document _) =
      some patchPath :=
    named
  have removed := @removePatch_of_setPatch _ document changed
    ⟨changed.entries, layout⟩ set rfl
  obtain ⟨last, deletes, manifest, untouched, gone⟩ := remove_of_generated
    readsChanged namedRead generated there removed
  obtain ⟨lastLayout, parsesLast⟩ := removalLawful _ _ _ parses removed
  refine ⟨last, _, deletes, ⟨_, readText_eq manifest, parsesLast⟩,
    undone_of_setPatch set rfl, ?_, gone, ?_, ?_⟩
  · intro path apart different
    exact (untouched path apart different).trans
      (outside path apart different)
  · intro path present absent
    by_cases inside : telekioOf root <+: path
    · exact generated.only path inside present
    · by_cases atManifest : path = manifestPath root
      · rw [atManifest, manifest] at absent
        cases absent
      · rw [untouched path inside atManifest] at absent
        exact absurd absent present
  · intro path present absent
    by_cases inside : telekioOf root <+: path
    · exact onlyGenerated_of_valid tree valid path inside present
    · by_cases atManifest : path = manifestPath root
      · rw [atManifest, manifest] at absent
        cases absent
      · rw [untouched path inside atManifest,
          outside path inside atManifest] at absent
        exact absurd absent present

/-- An editor that knows the manifest of one project, with and without the
patch. -/
def plainEditor : Editor Unit where
  parse := projectEditor.parse
  print document :=
    if (document.entries.lookup "patch").isSome then patchedText
    else projectText

theorem plainEditor_parse {text : String} {document : Document Unit}
    (parsed : plainEditor.parse text = some document) :
    document = ⟨projectEntries, ()⟩ ∨ document = ⟨patchedEntries, ()⟩ := by
  simp only [plainEditor, projectEditor] at parsed
  split at parsed
  · cases parsed
    exact Or.inl rfl
  · split at parsed
    · cases parsed
      exact Or.inr rfl
    · cases parsed

theorem plainEditor_patched :
    plainEditor.parse patchedText = some ⟨patchedEntries, ()⟩ := by
  have other : patchedText ≠ projectText := by decide
  simp [plainEditor, projectEditor, other]

theorem plainEditor_lawful : plainEditor.Lawful := by
  intro text document changed parsed set
  refine ⟨(), ?_⟩
  have same : changed = ⟨patchedEntries, ()⟩ := by
    rcases plainEditor_parse parsed with rfl | rfl
    · exact Except.ok.inj (set.symm.trans setPatch_project)
    · exact Except.ok.inj (set.symm.trans setPatch_patched)
  rw [same]
  exact plainEditor_patched

theorem plainEditor_lawfulRemoval : plainEditor.LawfulRemoval := by
  intro text document changed parsed removed
  refine ⟨(), ?_⟩
  rcases plainEditor_parse parsed with rfl | rfl
  · cases removed
  · have same : changed = ⟨projectEntries, ()⟩ :=
      (Except.ok.inj removed).symm
    rw [same]
    simp [plainEditor, projectEditor, projectEntries]

theorem accepts_plainEditor :
    Accepts plainEditor [] ⟨projectEntries, ()⟩ projectFiles where
  manifest := ⟨projectText, readText_eq rfl, by
    simp [plainEditor, projectEditor]⟩
  own := rfl
  destination := rfl

/-- The project is patched and then as it was. -/
theorem remove_of_init_project :
    ∃ patched after last, init plainEditor
        (sampleTools sampleText plainText sampleRoot patched)
        (sampleCargo sampleText) (manifestPath []) .guest
          ⟨projectFiles, []⟩ = .ok () after ∧
      remove plainEditor (manifestPath []) ⟨after.files, []⟩ = .ok () last ∧
      VacantBelow last.files (telekioOf []) := by
  obtain ⟨patched, generated⟩ : ∃ patched,
      patchManifest ⟨"0.1.0", "1.98"⟩ (.table sampleRoot)
        (.table sampleFeatures) .guest .guest = .ok patched :=
    ⟨_, rfl⟩
  have other : sampleText ≠ manifestComment ++ plainText := by decide
  have readable : Readable
      (sampleTools sampleText plainText sampleRoot patched) (directoryOf [])
      projectFiles :=
    Or.inl (by decide)
  obtain ⟨after, returned, -⟩ := init_succeeds
    (sampleFormat_lawful sampleRoot_formed generated) plainEditor_lawful
    tree_projectFiles accepts_plainEditor readable
    (sample_tokioPackage other generated) setPatch_project
  have project : Tree (World.mk projectFiles []).files := tree_projectFiles
  obtain ⟨last, -, removed, -, -, -, gone, -⟩ := remove_of_init
    plainEditor_lawful plainEditor_lawfulRemoval project
    accepts_plainEditor.manifest returned
  exact ⟨patched, after, last, returned, removed, gone⟩

end Telekio.Patching
