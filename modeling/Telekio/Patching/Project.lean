import Telekio.Disk.Trees
import Telekio.Patching.Repair

/-!
# Patching a project

`init` of `telekio/src/project.rs`, with what it checks of the directory
`.telekio` and what it changes of the manifest. The editor of TOML documents
is a parameter.
-/

namespace Telekio.Patching

open Telekio.Disk

/-- What the editor sees of a document. Tables with a header or dotted keys
are `table`; `other` is anything else, as it is written. -/
inductive Item where
  | string (text : String)
  | inlineTable (entries : List (String × Item))
  | table (entries : List (String × Item))
  | other (text : String)

namespace Item

def get (item : Item) (key : String) : Option Item :=
  match item with
  | .table entries => entries.lookup key
  | .inlineTable entries => entries.lookup key
  | _ => none

def asStr : Item → Option String
  | .string text => some text
  | _ => none

/-- A table that can be changed; an inline table is not one. -/
def asTable : Item → Option (List (String × Item))
  | .table entries => some entries
  | _ => none

end Item

/-- A document, with comments and the order of its entries as layout. -/
structure Document (layout : Type) where
  entries : List (String × Item)
  layout : layout

structure Editor (layout : Type) where
  parse : String → Option (Document layout)
  print : Document layout → String

variable {json layout : Type}

def patchPath : String :=
  ".telekio/tokio"

def tokioPatch (document : Document layout) : Option Item := do
  (← (← document.entries.lookup "patch").get "crates-io").get "tokio"

def patchPathOf (document : Document layout) : Option String := do
  (← (← tokioPatch document).get "path").asStr

/-- There is a patch of Tokio that is not the one of Telekio. -/
def foreignPatch (document : Document layout) : Bool :=
  (tokioPatch document).any fun patch =>
    (patch.get "path").bind Item.asStr ≠ some patchPath

/-- The table under a key, or an empty one. -/
def tableOrNew (key message : String) (entries : List (String × Item)) :
    Except Error (List (String × Item)) :=
  orElse ((entries.lookup key).getD (.table [])).asTable (.message message)

def setPatch (document : Document layout) :
    Except Error (Document layout) := do
  let patches ←
    tableOrNew "patch" "patch is not a table" document.entries
  let cratesIo ←
    tableOrNew "crates-io" "patch.crates-io is not a table" patches
  let cratesIo := Keyed.insert "tokio"
    (.inlineTable [("path", .string patchPath)]) cratesIo
  let patches := Keyed.insert "crates-io" (.table cratesIo) patches
  return { document with
    entries := Keyed.insert "patch" (.table patches) document.entries }

def generatedText : String :=
  "Generated by Telekio."

def display (path : Path) : String :=
  "/" ++ "/".intercalate path

def notGenerated (path : Path) : Error :=
  .message (display path ++ " is not generated by Telekio")

def validateFile (files : Files) (path : Path) : Except Error Unit := do
  let source ← orElse (readText files path)
    (.message ("could not read generated file " ++ display path))
  if (Text.lines source).any (Text.contains · generatedText) then
    .ok ()
  else
    .error (notGenerated path)

def validateNames (allowed : List String) (files : Files)
    (directory : Path) : Except Error Unit :=
  if isDirectory files directory then
    match (names files directory).find? (· ∉ allowed) with
    | some name => .error (notGenerated (directory ++ [name]))
    | none => .ok ()
  else
    .error .io

def validateParent (files : Files) (directory : Path) : Except Error Unit :=
  validateNames ["tokio"] files directory

def validatePatch (files : Files) (directory : Path) :
    Except Error Unit := do
  validateFile files (manifestPath directory)
  validateFile files (buildPath directory)
  validateFile files (libPath directory)
  validateNames ["Cargo.toml", "build.rs", "src"] files directory
  validateNames ["lib.rs"] files (directory ++ ["src"])

/-- What is not there is not checked. -/
def validateExisting (validate : Files → Path → Except Error Unit)
    (files : Files) (path : Path) : Except Error Unit :=
  if (entryAt files path).isSome then validate files path else .ok ()

def validateDestination (directory : Path) (files : Files) :
    Except Error Unit := do
  let above ← orElse (parent directory) (.message "patch has no parent")
  validateExisting validateParent files above
  validateExisting validatePatch files directory

def telekioOf (root : Path) : Path :=
  root ++ [".telekio"]

def directoryOf (root : Path) : Path :=
  patchOf (telekioOf root)

variable (editor : Editor layout) (tools : Tools json) (cargo : Cargo json)

/-- The part of `init` after the guard. -/
def patchProject (manifest root : Path) (document : Document layout)
    (role : Role) : Effect Unit := do
  let checked ← Effect.query (validateDestination (directoryOf root))
  ofExcept checked
  preparePatch tools cargo (directoryOf root) role
  let document ← ofExcept (setPatch document)
  Effect.write manifest (editor.print document).toUTF8

def init (manifest : Path) (role : Role) : Effect Unit := do
  let root ← Effect.okOr (parent manifest)
    (.message "manifest has no parent")
  let text ← Effect.readToString manifest
  let document ← Effect.okOr (editor.parse text) (.message "invalid TOML")
  if foreignPatch document then
    throw (.message ("Tokio already has a patch in " ++ display manifest))
  else
    patchProject editor tools cargo manifest root document role

variable {editor tools cargo} {files : Files} {path root : Path}
variable {document changed : Document layout} {allowed : List String}

theorem tableOrNew_eq_ok {key message : String}
    {entries found : List (String × Item)} :
    tableOrNew key message entries = .ok found ↔
      ((entries.lookup key).getD (.table [])).asTable = some found :=
  orElse_eq_ok

/-- The patch of a document that is changed is that of Telekio. -/
theorem patchPathOf_setPatch (set : setPatch document = .ok changed) :
    patchPathOf changed = some patchPath := by
  simp only [setPatch, bind_eq_ok] at set
  obtain ⟨patches, -, cratesIo, -, set⟩ := set
  cases set
  simp [patchPathOf, tokioPatch, Item.get, Item.asStr]

theorem validateNames_eq_ok :
    validateNames allowed files path = .ok () ↔
      entryAt files path = some .directory ∧
        ∀ name ∈ names files path, name ∈ allowed := by
  unfold validateNames
  split
  · rename_i there
    split
    · rename_i name found
      have refused := List.find?_some found
      have member := List.mem_of_find?_eq_some found
      constructor
      · rintro ⟨⟩
      · rintro ⟨-, all⟩
        exact absurd (all name member) (by simpa using refused)
    · rename_i unrefused
      simpa [isDirectory_iff.mp there] using unrefused
  · rename_i missing
    constructor
    · rintro ⟨⟩
    · exact fun ⟨there, _⟩ => absurd (isDirectory_iff.mpr there) missing

theorem readText_of_validateFile
    (valid : validateFile files path = .ok ()) :
    ∃ text, readText files path = some text := by
  simp only [validateFile, bind_eq_ok, orElse_eq_ok] at valid
  obtain ⟨text, read, -⟩ := valid
  exact ⟨text, read⟩

theorem validateExisting_eq_ok
    {validate : Files → Path → Except Error Unit} :
    validateExisting validate files path = .ok () ↔
      entryAt files path = none ∨ validate files path = .ok () := by
  unfold validateExisting
  cases entryAt files path with
  | none => simp
  | some entry => simp

theorem validateDestination_eq_ok :
    validateDestination (directoryOf root) files = .ok () ↔
      (entryAt files (telekioOf root) = none ∨
        validateParent files (telekioOf root) = .ok ()) ∧
      (entryAt files (directoryOf root) = none ∨
        validatePatch files (directoryOf root) = .ok ()) := by
  simp only [validateDestination, directoryOf, parent_patchOf, orElse,
    ok_bind, bind_eq_ok]
  constructor
  · rintro ⟨_, above, below⟩
    exact ⟨validateExisting_eq_ok.mp above, validateExisting_eq_ok.mp below⟩
  · rintro ⟨above, below⟩
    exact ⟨(), validateExisting_eq_ok.mpr above,
      validateExisting_eq_ok.mpr below⟩

theorem validatePatch_eq_ok (valid : validatePatch files path = .ok ()) :
    entryAt files path = some .directory ∧
      entryAt files (path ++ ["src"]) = some .directory ∧
      (∃ text, readText files (manifestPath path) = some text) ∧
      (∃ text, readText files (buildPath path) = some text) ∧
      ∃ text, readText files (libPath path) = some text := by
  simp only [validatePatch, bind_eq_ok] at valid
  obtain ⟨_, manifest, _, build, _, lib, _, inside, below⟩ := valid
  exact ⟨(validateNames_eq_ok.mp inside).1,
    (validateNames_eq_ok.mp below).1, readText_of_validateFile manifest,
    readText_of_validateFile build, readText_of_validateFile lib⟩

/-- A cache that is left is refused. -/
theorem validateDestination_of_cache
    (left : Rooted files (cacheOf (telekioOf root))) :
    validateDestination (directoryOf root) files ≠ .ok () := by
  intro valid
  have listed : "source" ∈ names files (telekioOf root) :=
    mem_names left.directory
  rcases (validateDestination_eq_ok.mp valid).1 with absent | parent
  · have present := left _ (List.prefix_append (telekioOf root) ["source"])
    rw [absent] at present
    cases present
  · have allowed := (validateNames_eq_ok.mp parent).2 "source" listed
    simp at allowed

end Telekio.Patching
