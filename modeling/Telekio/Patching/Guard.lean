import Telekio.Patching.Repeat

/-!
# What the guard of `init` lets through

The guard reads the two tables of patches as they are written; what changes
them takes no inline table. Between the two the directory `.telekio` is made.
-/

namespace Telekio.Patching

open Telekio.Disk
open Telekio.Toml

variable {json layout : Type} {editor : Editor layout} {tools : Tools json}
variable {cargo : Cargo json} {document : Document layout}
variable {root : Path} {role : Role} {world : World}

/-- Nothing, or a table that is not inline. -/
inductive Plain : Option Item → Prop where
  | absent : Plain none
  | table (entries : List (String × Item)) : Plain (some (.table entries))

/-- `patch` and the `crates-io` in it are plain. -/
structure Changeable (document : Document layout) : Prop where
  patch : Plain (document.entries.lookup "patch")
  cratesIo : ∀ patches, document.entries.lookup "patch" =
    some (.table patches) → Plain (patches.lookup "crates-io")

theorem tableOrNew_eq_ok_iff {key message : String}
    {entries found : List (String × Item)} :
    tableOrNew key message entries = .ok found ↔
      entries.lookup key = none ∧ found = [] ∨
        entries.lookup key = some (.table found) := by
  rw [tableOrNew_eq_ok]
  generalize entries.lookup key = item
  match item with
  | none => simp [Item.asTable, eq_comm]
  | some (.table _) => simp [Item.asTable]
  | some (.string _) => simp [Item.asTable]
  | some (.inlineTable _) => simp [Item.asTable]
  | some (.other _) => simp [Item.asTable]

theorem plain_iff {item : Option Item} :
    Plain item ↔ item = none ∨ ∃ entries, item = some (.table entries) := by
  constructor
  · intro plain
    cases plain with
    | absent => exact Or.inl rfl
    | table entries => exact Or.inr ⟨entries, rfl⟩
  · rintro (rfl | ⟨entries, rfl⟩)
    · exact .absent
    · exact .table entries

theorem plain_iff_tableOrNew {key message : String}
    {entries : List (String × Item)} :
    Plain (entries.lookup key) ↔
      ∃ found, tableOrNew key message entries = .ok found := by
  simp only [plain_iff, tableOrNew_eq_ok_iff]
  constructor
  · rintro (absent | ⟨found, there⟩)
    · exact ⟨[], Or.inl ⟨absent, rfl⟩⟩
    · exact ⟨found, Or.inr there⟩
  · rintro ⟨found, ⟨absent, -⟩ | there⟩
    · exact Or.inl absent
    · exact Or.inr ⟨found, there⟩

/-- What changes a document takes those that can be changed, and no others. -/
theorem setPatch_eq_ok_iff :
    (∃ changed, setPatch document = .ok changed) ↔ Changeable document := by
  simp only [setPatch, bind_eq_ok]
  constructor
  · rintro ⟨changed, patches, taken, cratesIo, takenIn, -⟩
    refine ⟨plain_iff_tableOrNew.mpr ⟨patches, taken⟩, ?_⟩
    intro found there
    rcases tableOrNew_eq_ok_iff.mp taken with ⟨absent, -⟩ | same
    · rw [absent] at there
      cases there
    · rw [same] at there
      cases there
      exact plain_iff_tableOrNew.mpr ⟨cratesIo, takenIn⟩
  · rintro ⟨patch, cratesIo⟩
    obtain ⟨patches, taken⟩ :=
      (@plain_iff_tableOrNew _ "patch is not a table" _).mp patch
    have inside : Plain (patches.lookup "crates-io") := by
      rcases tableOrNew_eq_ok_iff.mp taken with ⟨-, rfl⟩ | there
      · exact .absent
      · exact cratesIo patches there
    obtain ⟨found, takenIn⟩ := (@plain_iff_tableOrNew _
      "patch.crates-io is not a table" _).mp inside
    exact ⟨_, patches, taken, found, takenIn, rfl⟩

/-- What `init` finds in the manifest. -/
def Reads (editor : Editor layout) (root : Path) (document : Document layout)
    (files : Files) : Prop :=
  ∃ text, readText files (manifestPath root) = some text ∧
    editor.parse text = some document

/-- A manifest that is refused leaves everything as it is, one that is not
refused can be changed, and no other failure is one of the manifest: nothing
has changed yet, or it is the preparation or the last write that fails. -/
structure FailsEarly (editor : Editor layout) (tools : Tools json)
    (cargo : Cargo json) (root : Path) (role : Role)
    (document : Document layout) (world : World) : Prop where
  refused : foreignPatch document = true →
    ∃ error, init editor tools cargo (manifestPath root) role world =
      .error error world
  settable : foreignPatch document = false →
    ∃ changed, setPatch document = .ok changed
  late : ∀ error left,
    init editor tools cargo (manifestPath root) role world =
      .error error left →
    left = world ∨
      preparePatch tools cargo (directoryOf root) role world =
        .error error left ∨
      ∃ prepared contents,
        preparePatch tools cargo (directoryOf root) role world =
          .ok () prepared ∧
        Effect.write (manifestPath root) contents prepared = .error error left

theorem init_of_reads (reads : Reads editor root document world.files) :
    init editor tools cargo (manifestPath root) role world =
      if foreignPatch document then
        .error (.message ("Tokio already has a patch in " ++
          display (manifestPath root))) world
      else
        patchProject editor tools cargo (manifestPath root) root document role
          world := by
  obtain ⟨text, read, parsed⟩ := reads
  have readToString : Effect.readToString (manifestPath root) world =
      .ok text world :=
    Effect.readToString_eq_ok.mpr ⟨read, rfl⟩
  rw [init, parent_manifestPath]
  simp only [Effect.okOr, pure_bind]
  rw [Effect.bind_of_ok readToString, parsed]
  simp only [pure_bind]
  split <;> rfl

theorem patchProject_of_invalid {manifest : Path} {error : Error}
    (invalid : validateDestination (directoryOf root) world.files =
      .error error) :
    patchProject editor tools cargo manifest root document role world =
      .error error world := by
  rw [patchProject, Effect.query_bind, invalid]
  rfl

theorem patchProject_of_valid {manifest : Path}
    (valid : validateDestination (directoryOf root) world.files = .ok ()) :
    patchProject editor tools cargo manifest root document role world =
      (preparePatch tools cargo (directoryOf root) role >>= fun _ =>
        ofExcept (setPatch document) >>= fun changed =>
          Effect.write manifest (editor.print changed).toUTF8) world := by
  rw [patchProject, Effect.query_bind, valid]
  rfl

/-- A document that can be changed is the reason of no failure. -/
theorem late_of_settable {changed : Document layout} {manifest : Path}
    {error : Error} {left : World}
    (settable : setPatch document = .ok changed)
    (failed : patchProject editor tools cargo manifest root document role
      world = .error error left) :
    left = world ∨
      preparePatch tools cargo (directoryOf root) role world =
        .error error left ∨
      ∃ prepared contents,
        preparePatch tools cargo (directoryOf root) role world =
          .ok () prepared ∧
        Effect.write manifest contents prepared = .error error left := by
  cases valid : validateDestination (directoryOf root) world.files with
  | error reason =>
      rw [patchProject_of_invalid valid] at failed
      cases failed
      exact Or.inl rfl
  | ok =>
      rw [patchProject_of_valid valid] at failed
      cases ran : preparePatch tools cargo (directoryOf root) role world with
      | error reason stopped =>
          rw [Effect.bind_of_error ran] at failed
          exact Or.inr (Or.inl failed)
      | ok _ prepared =>
          rw [Effect.bind_of_ok ran, settable] at failed
          exact Or.inr (Or.inr ⟨prepared, _, rfl, failed⟩)

/-- `init` fails early, or not because of the manifest, exactly when the guard
refuses the manifest or what it lets through can be changed. -/
theorem init_failsEarly_iff
    (reads : Reads editor root document world.files) :
    FailsEarly editor tools cargo root role document world ↔
      foreignPatch document = true ∨ Changeable document := by
  have runs := @init_of_reads _ _ editor tools cargo document root role world
    reads
  constructor
  · intro early
    cases own : foreignPatch document with
    | true => exact Or.inl rfl
    | false => exact Or.inr (setPatch_eq_ok_iff.mp (early.settable own))
  · intro condition
    refine ⟨?_, ?_, ?_⟩
    · intro foreign
      rw [runs, if_pos foreign]
      exact ⟨_, rfl⟩
    · intro own
      rcases condition with foreign | changeable
      · rw [own] at foreign
        cases foreign
      · exact setPatch_eq_ok_iff.mpr changeable
    · intro error left failed
      rw [runs] at failed
      split at failed
      · cases failed
        exact Or.inl rfl
      · rename_i own
        obtain ⟨changed, settable⟩ :=
          setPatch_eq_ok_iff.mpr (condition.resolve_left own)
        exact late_of_settable settable failed

def inlineText : String :=
  "patch = \x7b crates-io = \x7b serde = \x7b path = \"serde\" \x7d " ++
  "\x7d \x7d\n\n" ++ projectText

def inlineEntries : List (String × Item) :=
  ("patch", .inlineTable [("crates-io", .inlineTable
    [("serde", .inlineTable [("path", .string "serde")])])]) :: projectEntries

/-- An editor that knows one manifest. -/
def inlineEditor : Editor Unit where
  parse text := if text = inlineText then some ⟨inlineEntries, ()⟩ else none
  print _ := inlineText

def inlineFiles : Files :=
  [(["Cargo.toml"], .file inlineText.toUTF8)]

theorem tree_inlineFiles : Tree inlineFiles :=
  tree_singleton

theorem reads_inlineFiles :
    Reads inlineEditor [] ⟨inlineEntries, ()⟩ inlineFiles :=
  ⟨inlineText, readText_eq rfl, by simp [inlineEditor]⟩

theorem accepts_inlineFiles :
    Accepts inlineEditor [] ⟨inlineEntries, ()⟩ inlineFiles where
  manifest := reads_inlineFiles
  own := rfl
  destination := rfl

theorem reads_projectFiles :
    Reads projectEditor [] ⟨projectEntries, ()⟩ projectFiles :=
  ⟨projectText, readText_eq rfl, by simp [projectEditor]⟩

/-- A manifest without patches can be changed. -/
theorem failsEarly_of_no_patches : ∃ patched,
    FailsEarly projectEditor
      (sampleTools sampleText plainText sampleRoot patched)
      (sampleCargo sampleText) [] .guest ⟨projectEntries, ()⟩
      ⟨projectFiles, []⟩ := by
  have changeable : Changeable (⟨projectEntries, ()⟩ : Document Unit) :=
    setPatch_eq_ok_iff.mp ⟨_, setPatch_project⟩
  exact ⟨.table sampleRoot,
    (init_failsEarly_iff reads_projectFiles).mpr (Or.inr changeable)⟩

/-- The guard lets the inline table through, and `.telekio/tokio` is there
when it turns out that it cannot be changed. -/
theorem not_forall_failsEarly :
    (∃ patched prepared,
      foreignPatch (⟨inlineEntries, ()⟩ : Document Unit) = false ∧
      entryAt inlineFiles (telekioOf []) = none ∧
      init inlineEditor (sampleTools sampleText plainText sampleRoot patched)
        (sampleCargo sampleText) (manifestPath []) .guest ⟨inlineFiles, []⟩ =
          .error (.message "patch is not a table") prepared ∧
      isFile prepared.files (manifestPath (directoryOf [])) = true) ∧
    ¬ ∀ (editor : Editor Unit) (tools : Tools Unit) (cargo : Cargo Unit)
        (root : Path) (role : Role) (document : Document Unit)
        (world : World),
      Reads editor root document world.files →
      FailsEarly editor tools cargo root role document world := by
  obtain ⟨patched, generated⟩ : ∃ patched,
      patchManifest ⟨"0.1.0", "1.98"⟩ (.table sampleRoot)
        (.table sampleFeatures) .guest .guest = .ok patched :=
    ⟨_, rfl⟩
  have other : sampleText ≠ manifestComment ++ plainText := by decide
  have readable : Readable
      (sampleTools sampleText plainText sampleRoot patched) (directoryOf [])
      inlineFiles :=
    Or.inl (by decide)
  obtain ⟨prepared, ran, current⟩ := prepares_of_accepts
    (sampleFormat_lawful sampleRoot_formed generated) tree_inlineFiles
    accepts_inlineFiles readable (sample_tokioPackage other generated)
  constructor
  · have failed : init inlineEditor
        (sampleTools sampleText plainText sampleRoot patched)
        (sampleCargo sampleText) (manifestPath []) .guest ⟨inlineFiles, []⟩ =
          .error (.message "patch is not a table") ⟨prepared, []⟩ := by
      rw [@init_of_accepts _ _ _ _ _ _ _ _ ⟨inlineFiles, []⟩
        accepts_inlineFiles, Effect.bind_of_ok ran]
      rfl
    exact ⟨patched, ⟨prepared, []⟩, rfl, rfl, failed,
      isFile_of_patchCurrent current⟩
  · intro claim
    obtain ⟨changed, set⟩ := (claim inlineEditor
      (sampleTools sampleText plainText sampleRoot patched)
      (sampleCargo sampleText) [] .guest ⟨inlineEntries, ()⟩
      ⟨inlineFiles, []⟩ reads_inlineFiles).settable rfl
    cases set

end Telekio.Patching
