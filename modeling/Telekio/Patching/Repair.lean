import Telekio.Patching.Cache
import Telekio.Patching.Roles

/-!
# Repairing a patch

A patch that is not current is written again from the source, whatever its
directory has in it, as long as the checker can say so: it is an error if the
three files are there and one of them cannot be read.
-/

namespace Telekio.Patching

open Telekio.Disk
open Telekio.Toml

variable {json : Type} {tools : Tools json} {cargo : Cargo json}
variable {root original : Table} {preamble : String}
variable {source dependency : Role} {above : Path}

/-- The package of Tokio in the registry: its files can be copied and read,
and a patch can be generated from them. -/
structure TokioPackage (tools : Tools json) (cargo : Cargo json)
    (selected : Package json) (entries : List (String × Node))
    (root original : Table) (preamble : String)
    (source dependency : Role) : Prop where
  registered : Registered cargo "tokio" tokioVersion selected entries
  regular : Regular entries
  manifest : ∃ contents text, fileAt entries ["Cargo.toml"] = some contents ∧
    String.fromUTF8? contents = some text ∧
    tools.format.fromStr text = some (.table root)
  lib : ∃ contents text, fileAt entries ["src", "lib.rs"] = some contents ∧
    String.fromUTF8? contents = some text ∧
    cratePreamble tools text = some preamble
  features : tools.format.tryFrom selected.features = some (.table original)
  forwardable : Forwardable root original
  noHost : hostOf (.table root) = none
  noExport : Text.contains preamble hostExport = false
  generates : ∃ patched printed,
    patchManifest tools.release (.table root) (.table original) source
      dependency = .ok patched ∧
    tools.format.toString patched = some printed

variable {selected : Package json} {entries : List (String × Node)}
variable {files : Files} {path : Path}

theorem readText_of_copied {below : Path} {contents : ByteArray}
    {text : String} (copied : Copied path entries files)
    (found : fileAt entries below = some contents)
    (ordinary : ".git" ∉ below)
    (decoded : String.fromUTF8? contents = some text) :
    readText files (path ++ below) = some text := by
  rw [readText, copied below contents found ordinary]
  exact decoded

theorem TokioPackage.isTokio
    (package : TokioPackage tools cargo selected entries root original
      preamble source dependency)
    (copied : Copied path entries files) :
    IsTokio tools path selected.features root original preamble files := by
  obtain ⟨contents, text, found, decoded, parsed⟩ := package.manifest
  obtain ⟨libContents, libText, libFound, libDecoded, libParsed⟩ :=
    package.lib
  refine ⟨⟨⟨text, ?_, parsed⟩, package.features, ⟨libText, ?_, libParsed⟩⟩,
    package.forwardable, package.noHost, package.noExport⟩
  · exact readText_of_copied copied found (by decide) decoded
  · exact readText_of_copied copied libFound (by decide) libDecoded

/-- Both programs name the directory of the patch so. -/
def patchOf (above : Path) : Path :=
  above ++ ["tokio"]

theorem not_along_patchOf {rest : Path} :
    ¬ Along (cacheOf above) (patchOf above ++ rest) := by
  rintro (below | upper)
  · simp [cacheOf, patchOf] at below
  · simp [cacheOf, patchOf] at upper

theorem not_cacheOf_prefix {rest : Path} :
    ¬ cacheOf above <+: patchOf above ++ rest :=
  fun inside => not_along_patchOf (Or.inl inside)

theorem parent_patchOf : parent (patchOf above) = some above := by
  simp [parent, patchOf]

/-- What is above the patch is above the cache, and the rest is apart. -/
theorem above_patchOf {higher rest : Path}
    (inside : higher <+: patchOf above ++ rest) :
    higher <+: cacheOf above ∨ ∃ below, higher = patchOf above ++ below := by
  have under : above <+: patchOf above ++ rest := by
    rw [patchOf, List.append_assoc]
    exact List.prefix_append _ _
  rcases List.prefix_or_prefix_of_prefix inside under with upper | ⟨below, rfl⟩
  · exact Or.inl (upper.trans (List.prefix_append _ _))
  · cases below with
    | nil =>
        rw [List.append_nil]
        exact Or.inl (List.prefix_append _ _)
    | cons first below =>
        rw [patchOf, List.append_assoc, List.prefix_append_right_inj,
          List.singleton_append, List.cons_prefix_cons] at inside
        obtain ⟨rfl, -⟩ := inside
        exact Or.inr ⟨below, by simp [patchOf]⟩

/-- Preparing the source leaves room for the patch. -/
theorem patchable_of_agree {prepared : Files}
    (patchable : Patchable (patchOf above) files)
    (agree : AgreeOutside (Along (cacheOf above)) files prepared)
    (rooted : Rooted prepared (cacheOf above)) :
    Patchable (patchOf above) prepared where
  creatable := by
    intro higher inside
    rcases above_patchOf inside with upper | ⟨below, rfl⟩
    · exact Or.inr (rooted higher upper)
    · rw [agree _ not_along_patchOf]
      exact patchable.creatable _ inside
  manifest := by
    rw [manifestPath, agree _ not_along_patchOf]
    exact patchable.manifest
  build := by
    rw [buildPath, agree _ not_along_patchOf]
    exact patchable.build
  lib := by
    rw [libPath, agree _ not_along_patchOf]
    exact patchable.lib

theorem preserves_ofExcept {α : Type} {condition : Files → Prop}
    (result : Except Error α) : Preserves condition (ofExcept result) := by
  cases result with
  | ok value => exact .pure value
  | error error => exact .throw error

theorem preserves_generateTexts {condition : Files → Prop}
    {features : json} :
    Preserves condition
      (generateTexts tools path features source dependency) :=
  .bind (.readToString _) fun _ => .bind (.okOr _ _) fun _ =>
    .bind (.okOr _ _) fun _ => .bind (preserves_ofExcept _) fun _ =>
      .bind (.readToString _) fun _ => .bind (.okOr _ _) fun _ => .pure _

/-- Writing a patch removes no directory. -/
theorem keeps_writePatch {directory other : Path} {features : json} :
    Preserves (fun files => entryAt files other = some .directory)
      (writePatch tools directory path features source dependency) :=
  .bind keeps_createDirAll fun _ => .bind preserves_generateTexts fun _ =>
    .bind keeps_write fun _ => .bind keeps_write fun _ =>
      .bind (.okOr _ _) fun _ => keeps_write

theorem written_of_agree {after : Files} {manifest converted : Value}
    (written : Written tools (patchOf above) source dependency manifest
      converted preamble files)
    (agree : AgreeOutside (Along (cacheOf above)) files after) :
    Written tools (patchOf above) source dependency manifest converted
      preamble after where
  manifest := by
    obtain ⟨patched, printed, generated, prints, there⟩ := written.manifest
    refine ⟨patched, printed, generated, prints, ?_⟩
    rw [manifestPath, agree _ not_along_patchOf]
    exact there
  build := by
    rw [buildPath, agree _ not_along_patchOf]
    exact written.build
  lib := by
    rw [libPath, agree _ not_along_patchOf]
    exact written.lib

/-- The cache is removed, and nothing else. -/
theorem removesCache (rooted : Rooted files (cacheOf above)) :
    ∃ after, Effect.removeDirAll (cacheOf above) ⟨files, []⟩ =
        .ok () ⟨after, []⟩ ∧
      VacantBelow after (cacheOf above) ∧
      AgreeOutside (Along (cacheOf above)) files after ∧
      Rooted after above := by
  have proper : cacheOf above ≠ [] := by simp [cacheOf]
  obtain ⟨_, after, removed, -⟩ :=
    succeeds_removeDirAll proper files rooted.directory
  have gone := @after_removeDirAll (cacheOf above) (fun _ => True)
    ⟨files, []⟩ trivial
  have same := @preserves_removeDirAll (Along (cacheOf above)) files
    (cacheOf above) (fun _ => Or.inl) ⟨files, []⟩ (.refl _ _)
  have kept : Preserves (fun files => Rooted files above)
      (Effect.removeDirAll (cacheOf above)) := by
    refine keeps_rooted fun higher inside => keeps_removeDirAll ?_
    intro longer
    have lengths := (longer.trans inside).length_le
    simp [cacheOf] at lengths
  have higher := kept ⟨files, []⟩ (rooted.mono (List.prefix_append _ _))
  rw [removed] at gone same higher
  exact ⟨after, removed, gone, same, higher⟩

/-- The patch is written, and the cache is gone. -/
theorem regeneratePatch_of_prepared {result : Path × json} {prepared : Files}
    (package : TokioPackage tools cargo selected entries root original
      preamble source dependency)
    (patchable : Patchable (patchOf above) files)
    (prepares : prepareTokioIn cargo (cacheOf above) ⟨files, []⟩ =
      .ok result ⟨prepared, []⟩) :
    ∃ after, regeneratePatch tools cargo (patchOf above) source dependency
        ⟨files, []⟩ = .ok () ⟨after, []⟩ ∧
      Written tools (patchOf above) source dependency (.table root)
        (.table original) preamble after ∧
      Rooted after above ∧ VacantBelow after (cacheOf above) := by
  have agree := @preserves_preparePackage _ cargo (cacheOf above) "tokio"
    tokioVersion files ⟨files, []⟩ (.refl _ _)
  have ready := @after_preparePackage _ cargo (cacheOf above) "tokio"
    tokioVersion selected entries package.registered ⟨files, []⟩ trivial
  rw [prepareTokioIn] at prepares
  rw [prepares] at agree ready
  obtain ⟨rooted, rfl, copied⟩ := ready
  obtain ⟨patched, printed, generated, prints⟩ := package.generates
  have room := patchable_of_agree patchable agree rooted
  have tokio := package.isTokio copied
  obtain ⟨_, left, wrote, written⟩ :=
    succeeds_writePatch generated prints prepared ⟨room, tokio.provides⟩
  have stays : Preserves (fun files => Rooted files (cacheOf above))
      (writePatch tools (patchOf above)
        (destinationOf (cacheOf above) "tokio" tokioVersion)
        selected.features source dependency) :=
    keeps_rooted fun _ _ => keeps_writePatch
  have cacheLeft := stays ⟨prepared, []⟩ rooted
  rw [wrote] at cacheLeft
  obtain ⟨after, removed, gone, same, higher⟩ := removesCache cacheLeft
  refine ⟨after, ?_, written_of_agree written same, higher, gone⟩
  simp only [regeneratePatch, parent_patchOf, Effect.okOr, Bind.bind,
    EStateM.bind, Pure.pure, EStateM.pure, prepareTokioIn, prepares, wrote,
    removed]

/-! ## What the checker can read -/

/-- One of the three files is not there, or all of them are texts and the
manifest has a table of dependencies. -/
def Readable (tools : Tools json) (directory : Path) (files : Files) : Prop :=
  ¬ (isFile files (manifestPath directory) ∧
      isFile files (buildPath directory) ∧
      isFile files (libPath directory)) ∨
    ∃ build lib text manifest dependencies,
      readText files (buildPath directory) = some build ∧
      readText files (libPath directory) = some lib ∧
      readText files (manifestPath directory) = some text ∧
      tools.format.fromStr text = some manifest ∧
      tableOf "dependencies" manifest = some dependencies

theorem orElse_eq_ok {α : Type} {found : Option α} {error : Error}
    {value : α} : orElse found error = .ok value ↔ found = some value := by
  cases found <;> simp [orElse]

theorem manifestCurrent_eq_ok_iff {release : Release} {manifest : Value}
    {build lib : String} :
    (∃ current, manifestCurrent release manifest build lib source
      dependency = .ok current) ↔
      ∃ dependencies, tableOf "dependencies" manifest = some dependencies := by
  unfold manifestCurrent
  cases tableOf "dependencies" manifest with
  | none => simp [okOr, bind, Except.bind]
  | some dependencies => exact ⟨fun _ => ⟨_, rfl⟩, fun _ => ⟨_, rfl⟩⟩

theorem patchCurrent_eq_ok_iff {directory : Path} :
    (∃ current, patchCurrent tools directory source dependency files =
      .ok current) ↔ Readable tools directory files := by
  unfold patchCurrent Readable
  split
  · rename_i missing
    exact ⟨fun _ => Or.inl missing, fun _ => ⟨_, rfl⟩⟩
  · rename_i present
    constructor
    · rintro ⟨current, checked⟩
      simp only [bind_eq_ok, orElse_eq_ok] at checked
      obtain ⟨build, buildRead, lib, libRead, text, read, manifest, parsed,
        checked⟩ := checked
      obtain ⟨dependencies, found⟩ :=
        manifestCurrent_eq_ok_iff.mp ⟨current, checked⟩
      exact Or.inr ⟨build, lib, text, manifest, dependencies, buildRead,
        libRead, read, parsed, found⟩
    · rintro (missing | ⟨build, lib, text, manifest, dependencies, buildRead,
        libRead, read, parsed, found⟩)
      · exact absurd (not_not.mp present) missing
      · obtain ⟨current, checked⟩ :=
          (@manifestCurrent_eq_ok_iff source dependency tools.release
            manifest build lib).mpr ⟨dependencies, found⟩
        refine ⟨current, ?_⟩
        simp only [buildRead, libRead, read, parsed, orElse, ok_bind]
        exact checked

/-- What the checker cannot read is an error of the preparation. -/
theorem readable_of_preparePatchWith {directory : Path} {world after : World}
    (returned : preparePatchWith tools cargo directory source dependency
      world = .ok () after) :
    Readable tools directory world.files := by
  refine (@patchCurrent_eq_ok_iff _ tools source dependency _ _).mp ?_
  simp only [preparePatchWith, Effect.query, Bind.bind, EStateM.bind]
    at returned
  cases checked : patchCurrent tools directory source dependency
      world.files with
  | ok current => exact ⟨current, rfl⟩
  | error error =>
      rw [checked] at returned
      cases returned

/-- The check decides whether anything is done. -/
theorem preparePatchWith_of_checked {directory : Path} {world : World}
    {current : Bool}
    (checked : patchCurrent tools directory source dependency world.files =
      .ok current) :
    preparePatchWith tools cargo directory source dependency world =
      if current then .ok () world
      else regeneratePatch tools cargo directory source dependency world := by
  simp only [preparePatchWith, Effect.query, Bind.bind, EStateM.bind, checked,
    ofExcept, Pure.pure, EStateM.pure]
  split <;> rfl

theorem patchCurrent_of_package
    (lawful : tools.format.Lawful manifestComment)
    (package : TokioPackage tools cargo selected entries root original
      preamble source dependency)
    (written : Written tools path source dependency (.table root)
      (.table original) preamble files) :
    patchCurrent tools path source dependency files = .ok true := by
  obtain ⟨_, text, -, -, parsed⟩ := package.manifest
  have current := @patchCurrent_of_written _ tools path preamble source
    dependency files root original source dependency lawful
    (lawful.read parsed) (lawful.converted package.features)
    package.forwardable package.noHost package.noExport written
  simpa using current

/-- What the checker can read is repaired, if the source can be prepared and
the files can be written. -/
theorem preparePatchWith_of_readable {result : Path × json}
    {prepared : Files} (lawful : tools.format.Lawful manifestComment)
    (package : TokioPackage tools cargo selected entries root original
      preamble source dependency)
    (patchable : Patchable (patchOf above) files)
    (prepares : prepareTokioIn cargo (cacheOf above) ⟨files, []⟩ =
      .ok result ⟨prepared, []⟩)
    (readable : Readable tools (patchOf above) files) :
    ∃ after, preparePatchWith tools cargo (patchOf above) source dependency
        ⟨files, []⟩ = .ok () ⟨after, []⟩ ∧
      patchCurrent tools (patchOf above) source dependency after =
        .ok true := by
  obtain ⟨current, checked⟩ :=
    (@patchCurrent_eq_ok_iff _ tools source dependency _ _).mpr readable
  rw [preparePatchWith_of_checked checked]
  cases current with
  | true => exact ⟨_, rfl, checked⟩
  | false =>
      obtain ⟨after, regenerated, written, -⟩ :=
        regeneratePatch_of_prepared package patchable prepares
      exact ⟨_, regenerated, patchCurrent_of_package lawful package written⟩

/-- If the source can be prepared and the files can be written, the patch is
repaired exactly when the checker can read what is there. -/
theorem preparePatchWith_repairs_iff {result : Path × json}
    {prepared : Files} (lawful : tools.format.Lawful manifestComment)
    (package : TokioPackage tools cargo selected entries root original
      preamble source dependency)
    (patchable : Patchable (patchOf above) files)
    (prepares : prepareTokioIn cargo (cacheOf above) ⟨files, []⟩ =
      .ok result ⟨prepared, []⟩) :
    (∃ after, preparePatchWith tools cargo (patchOf above) source dependency
        ⟨files, []⟩ = .ok () after ∧
      patchCurrent tools (patchOf above) source dependency after.files =
        .ok true) ↔
      Readable tools (patchOf above) files := by
  constructor
  · rintro ⟨after, returned, -⟩
    exact readable_of_preparePatchWith returned
  · intro readable
    obtain ⟨after, returned, current⟩ := preparePatchWith_of_readable lawful
      package patchable prepares readable
    exact ⟨_, returned, current⟩

def sampleEntries (text : String) : List (String × Node) :=
  [("Cargo.toml", .file text.toUTF8),
    ("src", .directory [("lib.rs", .file "".toUTF8)])]

def samplePackage (text : String) : Package Unit :=
  ⟨some "tokio", some tokioVersion,
    some "registry+https://github.com/rust-lang/crates.io-index",
    some (sampleEntries text), ()⟩

def sampleCargo (text : String) : Cargo Unit :=
  ⟨"version = 4\n".toUTF8, [samplePackage text]⟩

section Sample

variable {text printed : String} {patched : Value}

theorem sampleEntries_distinct : Distinct (sampleEntries text) := by
  refine .cons (by decide) nofun (.cons (by simp) ?_ .nil)
  intro _ same
  cases same
  exact .cons (by simp) nofun .nil

theorem sampleEntries_regular : Regular (sampleEntries text) := by
  refine .cons nofun nofun (.cons nofun ?_ .nil)
  intro _ same
  cases same
  exact .cons nofun nofun .nil

theorem sampleCargo_registered :
    Registered (sampleCargo text) "tokio" tokioVersion (samplePackage text)
      (sampleEntries text) where
  selects := by
    have selected : isSelected "tokio" tokioVersion (samplePackage text) =
        true := by
      simp [isSelected, samplePackage]
    simp [sampleCargo, selected]
  directory := rfl
  distinct := sampleEntries_distinct

theorem sample_tokioPackage (other : text ≠ manifestComment ++ printed)
    (generated : patchManifest ⟨"0.1.0", "1.98"⟩ (.table sampleRoot)
      (.table sampleFeatures) source dependency = .ok patched) :
    TokioPackage (sampleTools text printed sampleRoot patched)
      (sampleCargo text) (samplePackage text) (sampleEntries text)
      sampleRoot sampleFeatures "" source dependency where
  registered := sampleCargo_registered
  regular := sampleEntries_regular
  manifest := ⟨_, text, rfl, fromUTF8_toUTF8 text, by
    simp [sampleTools, sampleFormat, other]⟩
  lib := ⟨_, "", rfl, fromUTF8_toUTF8 "", rfl⟩
  features := rfl
  forwardable := sampleFeatures_forwardable
  noHost := rfl
  noExport := not_contains_empty
  generates := ⟨patched, printed, generated, if_pos rfl⟩

end Sample

/-- A first preparation that was stopped while it wrote the manifest. -/
def interruptedFiles : Files :=
  [(["tokio"], .directory), (["tokio", "src"], .directory),
    (["tokio", "Cargo.toml"], .file "# Gen".toUTF8)]

/-- A patch for a host, of which the manifest was emptied to be written
again. -/
def truncatedFiles : Files :=
  [(["tokio"], .directory), (["tokio", "src"], .directory),
    (["tokio", "Cargo.toml"], .file "".toUTF8),
    (["tokio", "build.rs"], .file (buildScript .host).toUTF8),
    (["tokio", "src", "lib.rs"], .file (libSource "" .host).toUTF8)]

theorem creatable_of_inits
    (each : ∀ above ∈ path.inits, entryAt files above = none ∨
      entryAt files above = some .directory) : Creatable files path :=
  fun above inside => each above ((List.mem_inits above path).mpr inside)

theorem patchable_interruptedFiles :
    Patchable (patchOf []) interruptedFiles where
  creatable := creatable_of_inits (by decide)
  manifest := by decide
  build := by decide
  lib := by decide

theorem patchable_truncatedFiles : Patchable (patchOf []) truncatedFiles where
  creatable := creatable_of_inits (by decide)
  manifest := by decide
  build := by decide
  lib := by decide

theorem fresh_interruptedFiles : Fresh (cacheOf []) interruptedFiles where
  creatable := creatable_of_inits (by decide)
  vacant := by
    rintro below ⟨rest, rfl⟩
    simp [cacheOf, entryAt, interruptedFiles, List.lookup_cons]

theorem fresh_truncatedFiles : Fresh (cacheOf []) truncatedFiles where
  creatable := creatable_of_inits (by decide)
  vacant := by
    rintro below ⟨rest, rfl⟩
    simp [cacheOf, entryAt, truncatedFiles, List.lookup_cons]

/-- The stopped preparation is made good. -/
theorem preparePatchWith_repairs_of_interrupted :
    ∃ patched after, preparePatchWith
        (sampleTools sampleText guestHostText sampleRoot patched)
        (sampleCargo sampleText) (patchOf []) .guest .host
          ⟨interruptedFiles, []⟩ = .ok () after ∧
      patchCurrent (sampleTools sampleText guestHostText sampleRoot patched)
        (patchOf []) .guest .host after.files = .ok true := by
  obtain ⟨patched, generated⟩ : ∃ patched,
      patchManifest ⟨"0.1.0", "1.98"⟩ (.table sampleRoot)
        (.table sampleFeatures) .guest .host = .ok patched :=
    ⟨_, rfl⟩
  have other : sampleText ≠ manifestComment ++ guestHostText := by decide
  obtain ⟨result, prepared, prepares, -⟩ :=
    succeeds_preparePackage (@sampleCargo_registered sampleText)
      sampleEntries_regular interruptedFiles fresh_interruptedFiles
  have missing : ¬ isFile interruptedFiles (buildPath (patchOf [])) = true := by
    decide
  refine ⟨patched, (preparePatchWith_repairs_iff
    (sampleFormat_lawful sampleRoot_formed generated)
    (sample_tokioPackage other generated) patchable_interruptedFiles
    prepares).mpr ?_⟩
  exact Or.inl fun present => missing present.2.1

/-- The emptied manifest is an error of every later preparation. -/
theorem not_forall_repairs :
    ¬ ∀ (tools : Tools Unit) (cargo : Cargo Unit) (selected : Package Unit)
        (entries : List (String × Node)) (root original : Table)
        (preamble : String) (source dependency : Role) (above : Path)
        (files prepared : Files) (result : Path × Unit),
      tools.format.Lawful manifestComment →
      TokioPackage tools cargo selected entries root original preamble
        source dependency →
      Patchable (patchOf above) files →
      prepareTokioIn cargo (cacheOf above) ⟨files, []⟩ =
        .ok result ⟨prepared, []⟩ →
      ∃ after, preparePatchWith tools cargo (patchOf above) source dependency
          ⟨files, []⟩ = .ok () after ∧
        patchCurrent tools (patchOf above) source dependency after.files =
          .ok true := by
  intro claim
  obtain ⟨patched, generated⟩ : ∃ patched,
      patchManifest ⟨"0.1.0", "1.98"⟩ (.table sampleRoot)
        (.table sampleFeatures) .guest .host = .ok patched :=
    ⟨_, rfl⟩
  have other : sampleText ≠ manifestComment ++ guestHostText := by decide
  obtain ⟨result, prepared, prepares, -⟩ :=
    succeeds_preparePackage (@sampleCargo_registered sampleText)
      sampleEntries_regular truncatedFiles fresh_truncatedFiles
  obtain ⟨after, returned, -⟩ := claim _ _ _ _ _ _ _ _ _ [] _ _ _
    (sampleFormat_lawful sampleRoot_formed generated)
    (sample_tokioPackage other generated) patchable_truncatedFiles prepares
  rcases readable_of_preparePatchWith returned with
    missing | ⟨_, _, text, manifest, dependencies, -, -, read, parsed, found⟩
  · exact missing ⟨rfl, rfl, rfl⟩
  · have empty : readText truncatedFiles (manifestPath (patchOf [])) =
        some "" :=
      readText_eq rfl
    have same : text = "" := Option.some.inj (read.symm.trans empty)
    subst same
    have sampleOther : "" ≠ manifestComment ++ guestHostText := by decide
    have textOther : "" ≠ sampleText := by decide
    simp only [sampleTools, sampleFormat, sampleOther, textOther,
      if_false, if_true] at parsed
    cases parsed
    cases found

end Telekio.Patching
