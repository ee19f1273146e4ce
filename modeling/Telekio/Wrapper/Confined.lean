import Telekio.Wrapper.Run

/-!
# What a run changes

The wrapper writes to its own cache only, and makes the directories above it
that are missing. What else changes in a run, the commands of Cargo have
changed.
-/

namespace Telekio.Wrapper

open Telekio.Command
open Telekio.Disk
open Telekio.Journal
open Telekio.Patching

variable {σ json layout α : Type}

/-- The directory of the wrapper, with what is below, and what is above and was
no directory. -/
def Cache (tempDir : Path) (base : Files) (path : Path) : Prop :=
  tempDir ++ ["telekio"] <+: path ∨
    path <+: tempDir ++ ["telekio"] ∧ entryAt base path ≠ some .directory

/-- The commands of Cargo change nothing outside a region. -/
structure Confined (machine : Machine σ) (region : Path → Prop) : Prop where
  status : ∀ arguments before,
    AgreeOutside region before.1 (machine.status arguments before).2.1
  output : ∀ arguments before,
    AgreeOutside region before.1 (machine.output arguments before).2.1

/-- From the start of a run on, nothing outside a region has changed. -/
def Untouched (region : Path → Prop) (base : Files) (state : State σ) :
    Prop :=
  AgreeOutside region base state.world.files

section Parts

variable {region : Path → Prop} {base : Files} {machine : Machine σ}

theorem keeps_onDisk {program : Effect α}
    (preserves : Preserves (AgreeOutside region base) program) :
    Keeps (Untouched region base) (onDisk program : Session σ α) := by
  refine .bind (.perform fun state agree => ?_) fun done => ?_
  · unfold access
    cases ran : program state.world with
    | ok value left => exact preserves.returned ran agree
    | error error left => exact preserves.stopped ran agree
  · cases done.result with
    | ok value => exact .pure
    | error error => exact .throw

theorem keeps_query {read : Files → α} :
    Keeps (Untouched region base) (query read : Session σ α) :=
  keeps_onDisk (.query read)

theorem keeps_orFail {found : Option α} {text : String} :
    Keeps (Untouched region base) (orFail found text : Session σ α) := by
  cases found with
  | some value => exact .pure
  | none => exact .throw

theorem keeps_ofExcept {found : Except String α} :
    Keeps (Untouched region base) (ofExcept found : Session σ α) := by
  cases found with
  | ok value => exact .pure
  | error text => exact .throw

/-- Changes of Cargo that are within its region are within a larger one. -/
theorem AgreeOutside.ask {own : Path → Prop} {before after : Files}
    (within : ∀ path, own path → region path)
    (agree : AgreeOutside region base before)
    (confined : AgreeOutside own before after) :
    AgreeOutside region base after :=
  fun path outside =>
    (confined path fun inside => outside (within path inside)).trans
      (agree path outside)

variable {own : Path → Prop} {arguments : List OsString}

theorem keeps_capture (within : ∀ path, own path → region path)
    (confined : Confined machine own) :
    Keeps (Untouched region base) (capture machine arguments) := by
  refine .bind (.perform fun state agree => ?_) fun answer => ?_
  · exact AgreeOutside.ask within agree (confined.output arguments _)
  · cases answer with
    | some output => exact .pure
    | none => exact .throw

theorem keeps_spawn (within : ∀ path, own path → region path)
    (confined : Confined machine own) :
    Keeps (Untouched region base) (spawn machine arguments) := by
  refine .bind (.perform fun state agree => ?_) fun answer => ?_
  · exact AgreeOutside.ask within agree (confined.status arguments _)
  · cases answer with
    | some status => exact .pure
    | none => exact .throw

variable (within : ∀ path, own path → region path)
variable (confined : Confined machine own)
include within confined

variable {manifest : String} {config : Path} {selected : List String}
variable {packages members : List Json} {metadata : Json}

theorem keeps_metadata {config : Option Path} {noDeps : Bool} :
    Keeps (Untouched region base)
      (Wrapper.metadata machine arguments manifest config noDeps) := by
  refine .bind (keeps_capture within confined) fun output => ?_
  exact .ite keeps_orFail .throw

theorem keeps_manifest {workspace : Bool} :
    Keeps (Untouched region base)
      (Wrapper.manifest machine arguments workspace) := by
  refine .ite .pure ?_
  refine .bind (keeps_capture within confined) fun output => ?_
  exact .ite (.bind keeps_orFail fun _ => .pure) .throw

theorem keeps_namedPackages :
    Keeps (Untouched region base)
      (namedPackages machine arguments manifest packages members
        selected) := by
  refine .bind ?_ fun names => ?_
  · refine .bind (keeps_capture within confined) fun output => ?_
    exact .ite (.bind keeps_orFail fun _ => .pure) .throw
  · dsimp only
    exact .ite .pure .pure

theorem keeps_selectedPackages :
    Keeps (Untouched region base)
      (Project.selectedPackages machine arguments manifest metadata
        packages) := by
  refine .bind keeps_orFail fun members => .bind ?_ fun selected =>
    .bind ?_ fun selection => .ite .throw .pure
  · exact .ite .pure keeps_orFail
  · exact .ite (keeps_namedPackages within confined) .pure

theorem keeps_info :
    Keeps (Untouched region base)
      (info machine arguments manifest metadata) := by
  refine .bind keeps_orFail fun packages =>
    .bind (keeps_selectedPackages within confined) fun selection =>
      .bind keeps_ofExcept fun groups =>
        .bind keeps_orFail fun members => .pure

theorem keeps_updatePackages {expected : Path} {version : String}
    {reached : List String} :
    Keeps (Untouched region base)
      (updatePackages machine arguments manifest config expected version
        reached packages) := by
  induction packages with
  | nil => exact .pure
  | cons package rest ih =>
      unfold updatePackages
      refine .bind keeps_query fun stale => .ite ?_ ih
      refine .bind keeps_orFail fun id => ?_
      exact .bind (keeps_spawn within confined) fun status => .ite ih .throw

theorem keeps_prepareGraph {editor : Editor layout} :
    Keeps (Untouched region base)
      (prepareGraph machine editor arguments manifest config selected) := by
  refine .bind (keeps_metadata within confined) fun metadata =>
    .ite .pure ?_
  exact .bind keeps_orFail fun packages => .bind keeps_orFail fun members =>
    .bind keeps_ofExcept fun reached =>
      .bind (keeps_onDisk preserves_readPatch) fun patch =>
        keeps_updatePackages within confined

end Parts

section Run

variable {setup : Setup σ json layout} {region : Path → Prop} {base : Files}
variable {arguments interpreted : List OsString} {manifest : String}
variable {info : ProjectInfo} {role : Role} {mixed : Bool}

/-- The cache, and what Cargo may change. -/
def Changed (setup : Setup σ json layout) (region : Path → Prop)
    (base : Files) (path : Path) : Prop :=
  region path ∨ Cache setup.machine.tempDir base path

/-- A preparation removes no directory above the cache. -/
theorem keeps_prepareConfig {path : Path}
    (above : path <+: setup.machine.tempDir ++ ["telekio"]) :
    Preserves (fun files => entryAt files path = some .directory)
      (prepareConfig setup.tools setup.registry setup.machine.tempDir role
        mixed) := by
  have higher : path <+: cacheParent setup.machine.tempDir role mixed :=
    above.trans (List.prefix_append _ _)
  have apart : ∀ name,
      path ≠ cacheParent setup.machine.tempDir role mixed ++ [name] := by
    rintro name rfl
    have lengths := higher.length_le
    simp at lengths
  rw [prepareConfig_eq_bind]
  exact .bind (.bind keeps_createDirAll fun _ =>
      .bind keeps_createDirAll fun _ =>
        .bind (keeps_write_of_ne (apart _)) fun _ => preserves_lock)
    fun _ => .bind
      (preserves_preparePatchWith (keeps_regeneratePatch higher)) fun _ =>
        .bind (keeps_write_of_ne (apart _)) fun _ => .pure _

theorem keeps_configure :
    Keeps (Untouched (Changed setup region base) base)
      (configure setup role mixed) := by
  refine keeps_onDisk (.narrow (fun _ => preserves_prepareConfig) ?_)
  intro path along outside
  have below : ¬ setup.machine.tempDir ++ ["telekio"] <+: path :=
    fun inside => outside (Or.inr (Or.inl inside))
  have above : path <+: setup.machine.tempDir ++ ["telekio"] := by
    rcases along with inside | upper
    · exact absurd ((List.prefix_append _ _).trans inside) below
    · rw [cacheParent] at upper
      exact (List.prefix_or_prefix_of_prefix (List.prefix_append _ _)
        upper).resolve_left below
  have there : entryAt base path = some .directory := by
    by_contra missing
    exact outside (Or.inr (Or.inr ⟨above, missing⟩))
  exact ⟨_, there, keeps_prepareConfig above⟩

variable (confined : Confined setup.machine region)
include confined

theorem keeps_status {config : Option Path} :
    Keeps (Untouched (Changed setup region base) base)
      (status setup.machine arguments config) :=
  keeps_spawn (fun _ => Or.inl) confined

theorem keeps_runWith {config : Option Path} :
    Keeps (Untouched (Changed setup region base) base)
      (runWith setup arguments config) :=
  .bind (keeps_status confined) fun _ => .throw

theorem keeps_runGroups {select : Bool}
    {groups : List (Role × List String)} {failed : Option ExitStatus} :
    Keeps (Untouched (Changed setup region base) base)
      (runGroups setup arguments manifest select groups failed) := by
  induction groups generalizing failed with
  | nil =>
      cases failed with
      | none => exact .pure
      | some status => exact .throw
  | cons group rest ih =>
      obtain ⟨role, packages⟩ := group
      refine .ite ih (.bind ?_ fun status => .ite ih (.ite .throw ih))
      exact .bind keeps_configure fun config =>
        .bind (keeps_prepareGraph (fun _ => Or.inl) confined) fun _ =>
          keeps_status confined

theorem keeps_runInfo :
    Keeps (Untouched (Changed setup region base) base)
      (runInfo setup arguments interpreted manifest info) := by
  unfold runInfo
  cases info.role with
  | some role =>
      exact .bind keeps_configure fun config =>
        .bind (keeps_prepareGraph (fun _ => Or.inl) confined) fun _ =>
          keeps_runWith confined
  | none =>
      unfold runMixed
      cases operation interpreted with
      | none => exact .throw
      | some name =>
          dsimp only
          cases (kind name).getD .output with
          | packages =>
              exact .ite (keeps_runGroups confined)
                (.ite (keeps_runGroups confined) .throw)
          | workspace => exact keeps_runGroups confined
          | single => exact .throw
          | output => exact .throw
          | plain => exact .throw

/-- However a run ends, and wherever it fails, nothing has changed outside the
cache but what the commands of Cargo have changed. -/
theorem runCargo_confined :
    Keeps (Untouched (Changed setup region base) base)
      (runCargo setup arguments interpreted) := by
  refine .ite (keeps_runWith confined) ?_
  refine .bind (keeps_manifest (fun _ => Or.inl) confined) fun found => ?_
  cases found with
  | none =>
      exact .bind keeps_configure fun config => keeps_runWith confined
  | some manifest =>
      refine .bind (keeps_metadata (fun _ => Or.inl) confined)
        fun metadata => .bind keeps_query fun uses =>
          .ite ?_ (keeps_runWith confined)
      exact .bind (keeps_info (fun _ => Or.inl) confined) fun info =>
        keeps_runInfo confined

end Run

/-- A Cargo that locks what it is asked about, knows of no Tokio in it, and
builds what it is run for. -/
def lockingMachine : Machine Unit where
  status := fun _ before => (some ⟨some 0⟩,
    put ["project", "target"] .directory before.1, before.2)
  output := fun _ before =>
    (some ⟨⟨some 0⟩, some "/project/Cargo.toml\n", some .null, ""⟩,
      put ["project", "Cargo.lock"] (.file "".toUTF8) before.1, before.2)
  pathOf := fun _ => ["project", "Cargo.toml"]
  tempDir := ["tmp"]

def Built (path : Path) : Prop :=
  path = ["project", "target"] ∨ path = ["project", "Cargo.lock"]

theorem lockingMachine_confined : Confined lockingMachine Built where
  status := fun _ _ => (AgreeOutside.refl _ _).put (Or.inl rfl)
  output := fun _ _ => (AgreeOutside.refl _ _).put (Or.inr rfl)

def lockingSetup : Setup Unit Unit Unit where
  machine := lockingMachine
  configured := ⟨fun _ => .ok .null, []⟩
  editor := ⟨fun _ => none, fun _ => ""⟩
  tools := sampleTools "" "" [] (.table [])
  registry := sampleCargo ""

def mainFile : Path :=
  ["project", "main.rs"]

def lockingStart : Record (State Unit) Entry :=
  ⟨⟨⟨[(mainFile, .file "".toUTF8)], []⟩, ()⟩, []⟩

/-- The project is built, and its source is as it was. -/
theorem runCargo_confined_build :
    let files := (Journal.run (runCargo lockingSetup
        [OsString.ofString "build"] [OsString.ofString "build"])
      lockingStart).2.state.world.files
    entryAt files ["project", "target"] = some .directory ∧
      entryAt files mainFile = some (.file "".toUTF8) := by
  have confined : Confined lockingSetup.machine Built :=
    lockingMachine_confined
  refine ⟨rfl, ?_⟩
  refine runCargo_confined confined lockingStart (.refl _ _) mainFile ?_
  simp [Changed, Built, Cache, mainFile, lockingSetup, lockingMachine]

end Telekio.Wrapper
