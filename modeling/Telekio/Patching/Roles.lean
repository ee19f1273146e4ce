import Telekio.Patching.Prepare

/-!
# Patches and roles

A patch is taken for the roles that it is written for, and for no others: it
is not written again without need, and not used for another role.
-/

namespace Telekio.Patching

open Telekio.Disk
open Telekio.Toml

variable {json : Type} {tools : Tools json} {directory path : Path}
variable {features : json} {root original : Table} {preamble : String}
variable {source dependency otherSource otherDependency : Role}

def sampleText : String :=
  "[dependencies]\n\n[features]\ndefault = []\nrt = []\n\n" ++
  "[package]\nname = \"tokio\"\n"

def sampleFeatures : Table :=
  [("default", .array []), ("rt", .array [])]

def sampleRoot : Table :=
  [("dependencies", .table []), ("features", .table sampleFeatures),
    ("package", .table [("name", .string "tokio")])]

/-- A format that knows the text of one source, that of the patch that is
made of it, and the empty document. -/
def sampleFormat (text printed : String) (root : Table) (patched : Value) :
    Format Unit where
  fromStr input :=
    if input = manifestComment ++ printed then some patched
    else if input = text then some (.table root)
    else if input = "" then some (.table [])
    else none
  toString value := if value = patched then some printed else none
  tryFrom _ := some (.table sampleFeatures)

def sampleTools (text printed : String) (root : Table) (patched : Value) :
    Tools Unit where
  release := ⟨"0.1.0", "1.98"⟩
  format := sampleFormat text printed root patched
  -- the root modules of the samples have no items
  firstItem _ := some none
  quote text := "\"" ++ text ++ "\""

def sampleFiles (text lib : String) : Files :=
  [(["source", "Cargo.toml"], .file text.toUTF8),
    (["source", "src", "lib.rs"], .file lib.toUTF8)]

theorem sampleFeatures_formed : sampleFeatures.WellFormed := by
  refine .table (by decide) ?_
  intro entry member
  simp only [sampleFeatures, List.mem_cons, List.not_mem_nil, or_false]
    at member
  rcases member with rfl | rfl
  · exact .array (by simp)
  · exact .array (by simp)

theorem wellFormed_single {key : String} {value : Value}
    (formed : value.WellFormed) : Table.WellFormed [(key, value)] := by
  refine .table (List.pairwise_singleton _ _) ?_
  intro entry single
  rw [List.mem_singleton.mp single]
  exact formed

theorem sampleRoot_formed : sampleRoot.WellFormed := by
  refine .table (by decide) ?_
  intro entry member
  simp only [sampleRoot, List.mem_cons, List.not_mem_nil, or_false] at member
  rcases member with rfl | rfl | rfl
  · exact Table.wellFormed_nil
  · exact sampleFeatures_formed
  · exact wellFormed_single (.string _)

theorem sampleFeatures_forwardable :
    Forwardable sampleRoot sampleFeatures where
  arrays := by
    intro feature member
    simp only [sampleFeatures, List.mem_cons, List.not_mem_nil, or_false]
      at member
    rcases member with rfl | rfl <;> exact ⟨[], rfl⟩
  noTest := by decide
  unforwarded := by
    intro feature member values array
    simp only [sampleFeatures, List.mem_cons, List.not_mem_nil, or_false]
      at member
    rcases member with rfl | rfl <;> cases array <;> rfl
  noPath := by
    intro dependencies found
    cases found
    simp

theorem not_contains_empty : Text.contains "" hostExport = false :=
  @Text.not_contains_of_notMem _ _ '#' (by simp [hostExport]) (by simp)

section Sample

variable {text lib printed : String} {patched : Value}

theorem sampleFormat_lawful (rootFormed : root.WellFormed)
    (generated : patchManifest ⟨"0.1.0", "1.98"⟩ (.table root)
      (.table sampleFeatures) source dependency = .ok patched) :
    (sampleTools text printed root patched).format.Lawful
      manifestComment where
  read := by
    intro input value parsed
    simp only [sampleTools, sampleFormat] at parsed
    split at parsed
    · cases parsed
      exact wellFormed_patchManifest generated rootFormed
        sampleFeatures_formed
    · split at parsed
      · cases parsed
        exact rootFormed
      · split at parsed
        · cases parsed
          exact Table.wellFormed_nil
        · cases parsed
  converted := by
    intro _ value converted
    cases converted
    exact sampleFeatures_formed
  roundTrip := by
    intro input value _ prints
    simp only [sampleTools, sampleFormat] at prints ⊢
    split at prints
    · rename_i same
      cases prints
      rw [if_pos rfl, same]
    · cases prints

theorem cratePreamble_sample :
    cratePreamble (sampleTools text printed root patched) lib = some lib := by
  have whole : lib.toList.take lib.length = lib.toList :=
    List.take_of_length_le lib.length_toList.le
  simp [cratePreamble, sampleTools, whole]

theorem sampleTools_provides (other : text ≠ manifestComment ++ printed) :
    Provides (sampleTools text printed root patched) ["source"] ()
      (.table root) (.table sampleFeatures) lib (sampleFiles text lib) where
  manifestText := by
    refine ⟨text, readText_eq rfl, ?_⟩
    simp [sampleTools, sampleFormat, other]
  features := rfl
  libText := ⟨lib, readText_eq rfl, cratePreamble_sample⟩

theorem entryAt_sampleFiles (rest : Path) :
    entryAt (sampleFiles text lib) ("tokio" :: rest) = none := by
  simp [entryAt, sampleFiles, List.lookup_cons]

theorem patchable_sampleFiles :
    Patchable ["tokio"] (sampleFiles text lib) where
  creatable := by
    intro above inside
    cases above with
    | nil => exact Or.inr rfl
    | cons first rest =>
        obtain ⟨rfl, -⟩ := List.cons_prefix_cons.mp inside
        exact Or.inl (entryAt_sampleFiles rest)
  manifest := by simp [manifestPath, entryAt_sampleFiles]
  build := by simp [buildPath, entryAt_sampleFiles]
  lib := by simp [libPath, entryAt_sampleFiles]

/-- The sample is written for roles for which there is a manifest. -/
theorem writes_sample (other : text ≠ manifestComment ++ printed)
    (generated : patchManifest ⟨"0.1.0", "1.98"⟩ (.table root)
      (.table sampleFeatures) source dependency = .ok patched) :
    ∃ after, writePatch (sampleTools text printed root patched)
      ["tokio"] ["source"] () source dependency ⟨sampleFiles text lib, []⟩ =
        .ok () after ∧
      Written (sampleTools text printed root patched) ["tokio"] source
        dependency (.table root) (.table sampleFeatures) lib after.files := by
  have prints : (sampleTools text printed root patched).format.toString
      patched = some printed :=
    if_pos rfl
  obtain ⟨_, left, ran, written⟩ :=
    @succeeds_writePatch _ (sampleTools text printed root patched) ["tokio"]
      ["source"] () (.table root) (.table sampleFeatures) lib source
      dependency patched printed generated prints (sampleFiles text lib)
      ⟨patchable_sampleFiles, sampleTools_provides other⟩
  exact ⟨_, ran, written⟩

end Sample

/-! ## The checker after the generator -/

/-- A source of Tokio that has not been patched for Telekio before. -/
structure IsTokio (tools : Tools json) (path : Path) (features : json)
    (root original : Table) (preamble : String) (files : Files) : Prop where
  provides : Provides tools path features (.table root) (.table original)
    preamble files
  forwardable : Forwardable root original
  noHost : hostOf (.table root) = none
  noExport : Text.contains preamble hostExport = false

theorem IsTokio.rootFormed {files : Files}
    (tokio : IsTokio tools path features root original preamble files)
    (lawful : tools.format.Lawful manifestComment) : root.WellFormed := by
  obtain ⟨text, -, parsed⟩ := tokio.provides.manifestText
  exact lawful.read parsed

theorem IsTokio.featuresFormed {files : Files}
    (tokio : IsTokio tools path features root original preamble files)
    (lawful : tools.format.Lawful manifestComment) : original.WellFormed :=
  lawful.converted tokio.provides.features

/-- After a patch is written, the checker takes it for exactly the roles that
it is written for. -/
theorem patchCurrent_writePatch {world after : World}
    (lawful : tools.format.Lawful manifestComment)
    (tokio : IsTokio tools path features root original preamble world.files)
    (written : writePatch tools directory path features source dependency
      world = .ok () after) :
    patchCurrent tools directory otherSource otherDependency after.files =
      .ok (decide (otherSource = source ∧
        otherDependency = dependency)) := by
  have texts := @after_writePatch _ tools directory path features
    (.table root) (.table original) preamble source dependency world
    tokio.provides
  rw [written] at texts
  exact patchCurrent_of_written lawful (tokio.rootFormed lawful)
    (tokio.featuresFormed lawful) tokio.forwardable tokio.noHost
    tokio.noExport texts

/-- The manifest of the sample for a guest with a host. -/
def guestHostText : String :=
  "[build-dependencies.telekio-build]\nversion = \"=0.1.0\"\n\n" ++
  "[dependencies.telekio-abi]\nfeatures = [\"guest\"]\n" ++
  "version = \"=0.1.0\"\n\n" ++
  "[features]\ndefault = []\nrt = [\"telekio-host/rt\"]\n\n" ++
  "[package]\nbuild = \"build.rs\"\nname = \"tokio\"\n" ++
  "rust-version = \"1.98\"\n\n" ++
  "[target.\"cfg(all(any(unix, windows), not(loom)))\"" ++
  ".dependencies.telekio-host]\n" ++
  "default-features = false\nversion = \"=0.1.0\"\n"

/-- A patch for a guest with a host is not one for a host. -/
theorem patchCurrent_writePatch_of_sample :
    ∃ patched after, writePatch
      (sampleTools sampleText guestHostText sampleRoot patched) ["tokio"]
        ["source"] () .guest .host ⟨sampleFiles sampleText "", []⟩ =
          .ok () after ∧
      patchCurrent (sampleTools sampleText guestHostText sampleRoot patched)
        ["tokio"] .host .host after.files = .ok false := by
  obtain ⟨patched, generated⟩ : ∃ patched,
      patchManifest ⟨"0.1.0", "1.98"⟩ (.table sampleRoot)
        (.table sampleFeatures) .guest .host = .ok patched :=
    ⟨_, rfl⟩
  have other : sampleText ≠ manifestComment ++ guestHostText := by decide
  obtain ⟨after, written, -⟩ := writes_sample other generated
  refine ⟨patched, after, written, ?_⟩
  have tokio : IsTokio
      (sampleTools sampleText guestHostText sampleRoot patched)
      ["source"] () sampleRoot sampleFeatures "" (sampleFiles sampleText "") :=
    ⟨sampleTools_provides other, sampleFeatures_forwardable, rfl,
      not_contains_empty⟩
  exact patchCurrent_writePatch
    (sampleFormat_lawful sampleRoot_formed generated) tokio written

/-- A source whose native target depends on the host. -/
def hostRoot : Table :=
  sampleRoot ++ [("target", .table [(nativeTarget, .table
    [("dependencies", .table [("telekio-host", .string "1")])])])]

def hostText : String :=
  sampleText ++
  "\n[target.\"cfg(all(any(unix, windows), not(loom)))\".dependencies]\n" ++
  "telekio-host = \"1\"\n"

/-- The manifest of that source for a guest. -/
def guestText : String :=
  "[build-dependencies.telekio-build]\nversion = \"=0.1.0\"\n\n" ++
  "[dependencies.telekio-abi]\nfeatures = [\"guest\"]\n" ++
  "version = \"=0.1.0\"\n\n" ++
  "[features]\ndefault = []\nrt = []\n\n" ++
  "[package]\nbuild = \"build.rs\"\nname = \"tokio\"\n" ++
  "rust-version = \"1.98\"\n\n" ++
  "[target.\"cfg(all(any(unix, windows), not(loom)))\".dependencies]\n" ++
  "telekio-host = \"1\"\n"

/-- The manifest of the sample for a guest. -/
def plainText : String :=
  "[build-dependencies.telekio-build]\nversion = \"=0.1.0\"\n\n" ++
  "[dependencies.telekio-abi]\nfeatures = [\"guest\"]\n" ++
  "version = \"=0.1.0\"\n\n" ++
  "[features]\ndefault = []\nrt = []\n\n" ++
  "[package]\nbuild = \"build.rs\"\nname = \"tokio\"\n" ++
  "rust-version = \"1.98\"\n"

theorem hostRoot_formed : hostRoot.WellFormed := by
  refine .table (by decide) ?_
  intro entry member
  rcases List.mem_append.mp member with old | target
  · cases sampleRoot_formed with
    | table sorted inner => exact inner entry old
  · rw [List.mem_singleton.mp target]
    exact wellFormed_single (wellFormed_single (wellFormed_single
      (.string _)))

/-- A root module whose preamble has the text of the export in a comment. -/
def exportComment : String :=
  "/* " ++ hostExport ++ " */"

/-- The generator keeps that dependency, and that preamble, and the checker
does not take the patch that is written for a guest. -/
theorem not_forall_patchCurrent :
    (¬ ∀ (tools : Tools Unit) (directory path : Path) (root original : Table)
        (preamble : String) (world after : World) (source dependency : Role),
      tools.format.Lawful manifestComment →
      Provides tools path () (.table root) (.table original) preamble
        world.files →
      Forwardable root original →
      Text.contains preamble hostExport = false →
      writePatch tools directory path () source dependency world =
        .ok () after →
      patchCurrent tools directory source dependency after.files =
        .ok true) ∧
    ¬ ∀ (tools : Tools Unit) (directory path : Path) (root original : Table)
        (preamble : String) (world after : World) (source dependency : Role),
      tools.format.Lawful manifestComment →
      Provides tools path () (.table root) (.table original) preamble
        world.files →
      Forwardable root original →
      hostOf (.table root) = none →
      writePatch tools directory path () source dependency world =
        .ok () after →
      patchCurrent tools directory source dependency after.files =
        .ok true := by
  constructor
  · intro claim
    obtain ⟨patched, generated⟩ : ∃ patched,
        patchManifest ⟨"0.1.0", "1.98"⟩ (.table hostRoot)
          (.table sampleFeatures) .guest .guest = .ok patched :=
      ⟨_, rfl⟩
    have other : hostText ≠ manifestComment ++ guestText := by decide
    have lawful := @sampleFormat_lawful _ _ _ hostText guestText patched
      hostRoot_formed generated
    obtain ⟨after, ran, written⟩ := @writes_sample _ _ _ _ "" _ _ other
      generated
    have forwardable : Forwardable hostRoot sampleFeatures :=
      ⟨sampleFeatures_forwardable.arrays, sampleFeatures_forwardable.noTest,
        sampleFeatures_forwardable.unforwarded,
        sampleFeatures_forwardable.noPath⟩
    have current := claim (sampleTools hostText guestText hostRoot patched)
      ["tokio"] ["source"] hostRoot sampleFeatures ""
      ⟨sampleFiles hostText "", []⟩ after .guest .guest lawful
      (sampleTools_provides other) forwardable not_contains_empty ran
    obtain ⟨_, again, reads⟩ :=
      @patchCurrent_eq_of_written _ _ _ _ _ _ _ _ _ .guest .guest lawful
        hostRoot_formed sampleFeatures_formed written
    rw [reads] at current
    have host := host_of_manifestCurrent current
    cases again
    cases host
  · intro claim
    obtain ⟨patched, generated⟩ : ∃ patched,
        patchManifest ⟨"0.1.0", "1.98"⟩ (.table sampleRoot)
          (.table sampleFeatures) .guest .guest = .ok patched :=
      ⟨_, rfl⟩
    have other : sampleText ≠ manifestComment ++ plainText := by decide
    have lawful := @sampleFormat_lawful _ _ _ sampleText plainText patched
      sampleRoot_formed generated
    obtain ⟨after, ran, written⟩ :=
      @writes_sample _ _ _ _ exportComment _ _ other generated
    have current := claim
      (sampleTools sampleText plainText sampleRoot patched)
      ["tokio"] ["source"] sampleRoot sampleFeatures exportComment
      ⟨sampleFiles sampleText exportComment, []⟩ after .guest .guest lawful
      (sampleTools_provides other) sampleFeatures_forwardable rfl ran
    obtain ⟨_, _, reads⟩ :=
      @patchCurrent_eq_of_written _ _ _ _ _ _ _ _ _ .guest .guest lawful
        sampleRoot_formed sampleFeatures_formed written
    rw [reads] at current
    have export_ := export_of_manifestCurrent current
    have commented : Text.contains exportComment hostExport = true :=
      Text.contains_append_left (Text.contains_append_right
        Text.contains_self)
    rw [contains_libSource, commented] at export_
    cases export_

end Telekio.Patching
