import Telekio.Wrapper.Config
import Telekio.Wrapper.Project

/-!
# Preparing the graph

`prepare_graph` of `telekio/src/project.rs`: in the graph that Cargo resolves
with a configuration, every other Tokio that the selected packages reach is
updated to the version of the patch.
-/

namespace Telekio.Wrapper

open Telekio.Command
open Telekio.Command.OsString
open Telekio.Disk
open Telekio.Journal
open Telekio.Packages
open Telekio.Patching (Editor Document Item manifestPath patchOf parent
  orElse)

section Closure

variable {α : Type} [DecidableEq α] {next : α → List α}
variable {start whole found items : List α} {index fuel : Nat}

/-- What was appended to the start is distinct. -/
def Extends (start whole found : List α) : Prop :=
  ∃ more, found = start ++ more ∧ more.Nodup ∧ more ⊆ whole

theorem extends_extend (grown : Extends start whole found)
    (inside : items ⊆ whole) :
    Extends start whole (Worklist.extend found items) := by
  induction items generalizing found with
  | nil => exact grown
  | cons first rest ih =>
      obtain ⟨here, later⟩ := List.cons_subset.mp inside
      unfold Worklist.extend
      split
      · exact ih grown later
      · rename_i missing
        obtain ⟨more, rfl, distinct, within⟩ := grown
        refine ih ⟨more ++ [first], List.append_assoc _ _ _, ?_, ?_⟩ later
        · have fresh : first ∉ more :=
            fun member => missing (List.mem_append_right _ member)
          exact List.nodup_append.mpr ⟨distinct, List.nodup_singleton _,
            fun old member other new same => fresh (by
              rw [List.mem_singleton.mp new] at same
              exact same ▸ member)⟩
        · exact List.append_subset.mpr
            ⟨within, fun _ new => List.mem_singleton.mp new ▸ here⟩

/-- The loop ends, also where an item is twice at the start. -/
theorem exists_run (covers : ∀ item, next item ⊆ whole)
    (grown : Extends start whole found)
    (enough : start.length + whole.length < index + fuel)
    (bounded : index ≤ found.length) :
    ∃ result, Worklist.run next fuel found index = some result := by
  induction fuel generalizing found index with
  | zero =>
      obtain ⟨more, rfl, distinct, within⟩ := grown
      have few := distinct.length_le_of_subset within
      rw [List.length_append] at bounded
      omega
  | succ fuel ih =>
      unfold Worklist.run
      split
      · exact ⟨found, rfl⟩
      · rename_i item current
        have inside := (List.getElem?_eq_some_iff.mp current).1
        have grows := (@Worklist.prefix_extend _ found
          (next item) _).length_le
        exact ih (extends_extend grown (covers item)) (by omega)
          (by omega)

end Closure

variable {σ layout : Type}

/-- Enough fuel for the loop of `reachable_packages`. -/
def closureFuel (metadata : Json) (selected : List String) : Nat :=
  selected.length + (allDependencies
    ((((metadata.index "resolve").index "nodes").asArray).getD [])).length + 1

def reachable (metadata : Json) (selected : List String) :
    Except String (List String) :=
  (reachablePackages (closureFuel metadata selected) metadata selected).map
    fun result => result.getD []

/-- The loop never lacks fuel. -/
theorem exists_reachablePackages {metadata : Json} {selected : List String}
    {found : Option (List String)}
    (returned : reachablePackages (closureFuel metadata selected) metadata
      selected = .ok found) : ∃ result, found = some result := by
  unfold reachablePackages at returned
  cases resolved : ((metadata.index "resolve").index "nodes").asArray with
  | none => simp [resolved] at returned
  | some nodes =>
      simp only [resolved] at returned
      cases returned
      refine exists_run (fun item dependency member =>
        mem_allDependencies (mem_dependenciesOf.mp member))
        ⟨[], (List.append_nil _).symm, List.nodup_nil,
          List.nil_subset _⟩ ?_ (Nat.zero_le _)
      simp only [closureFuel, resolved, Option.getD_some]
      omega

variable (machine : Machine σ) (editor : Editor layout)

/-- `fs::canonicalize` of the manifest of a package. -/
def canonicalManifest (files : Files) (package : Json) : Option Path :=
  ((textOf package "manifest_path").map machine.pathOf).filter
    fun path => (entryAt files path).isSome

/-- A Tokio that is reached and is not the patch. -/
def isStale (files : Files) (expected : Path) (reached : List String)
    (package : Json) : Bool :=
  canonicalManifest machine files package ≠ some expected &&
    (textOf package "id").any (· ∈ reached) &&
    (cratesIo package || generatedPatch machine files package)

def updateArguments (arguments : List OsString)
    (manifest id version : String) : List OsString :=
  globalOptions arguments ++
    ["update", "--manifest-path", manifest, "--package", id, "--precise",
      version].map ofString

/-- The loop of `prepare_graph`. -/
def updatePackages (arguments : List OsString) (manifest : String)
    (config expected : Path) (version : String) (reached : List String) :
    List Json → Session σ Unit
  | [] => pure ()
  | package :: rest => do
      let stale ← query fun files =>
        isStale machine files expected reached package
      if stale then do
        let id ← orFail (textOf package "id") "Tokio package has no ID"
        let status ← status machine
          (updateArguments arguments manifest id version) (some config)
        if status.success then
          updatePackages arguments manifest config expected version reached
            rest
        else
          fail "Cargo could not select the generated Tokio patch"
      else
        updatePackages arguments manifest config expected version reached rest

/-- `patch["package"]["version"]`, which panics where there is nothing. -/
def patchVersion (document : Document layout) : Except Error String :=
  match (document.entries.lookup "package").bind (·.get "version") with
  | none => .error .panicked
  | some version =>
      orElse version.asStr (.message "generated Tokio patch has no version")

/-- The manifest of the patch beside a configuration, and its version. -/
def readPatch (config : Path) : Effect (Path × String) := do
  let above ← Effect.okOr (parent config)
    (.message "Telekio config has no parent")
  let present ← Effect.query fun files =>
    (entryAt files (manifestPath (patchOf above))).isSome
  Effect.okOr (if present then some () else none) .io
  let text ← Effect.readToString (manifestPath (patchOf above))
  let document ← Effect.okOr (editor.parse text) (.message "invalid TOML")
  let version ← Patching.ofExcept (patchVersion document)
  return (manifestPath (patchOf above), version)

def isTokio (package : Json) : Bool :=
  textOf package "name" = some "tokio"

/-- The part of `prepare_graph` after the metadata. -/
def updateGraph (arguments : List OsString) (manifest : String)
    (config : Path) (selected : List String) (metadata : Json) :
    Session σ Unit := do
  let packages ← orFail (arrayOf metadata "packages")
    "Cargo metadata has no packages"
  let members ← orFail (arrayOf metadata "workspace_members")
    "Cargo metadata has no workspace members"
  let reached ← ofExcept
    (reachable metadata (memberIds packages members selected))
  let patch ← onDisk (readPatch editor config)
  updatePackages machine arguments manifest config patch.1 patch.2 reached
    (packages.filter isTokio)

def prepareGraph (arguments : List OsString) (manifest : String)
    (config : Path) (selected : List String) : Session σ Unit := do
  let metadata ← metadata machine arguments manifest (some config) false
  if operation arguments = some "update" then
    pure ()
  else
    updateGraph machine editor arguments manifest config selected metadata

/-! ## What it runs -/

variable {machine} {editor} {arguments : List OsString}
variable {manifest version : String} {config expected : Path}
variable {reached selected : List String} {packages : List Json}
variable {metadata : Json}

/-- The command that updates a package. -/
def updateCommand (arguments : List OsString) (manifest : String)
    (config : Path) (version id : String) : List OsString :=
  statusArguments (updateArguments arguments manifest id version)
    (some (osPath config))

/-- What the loop writes down for some packages, and how it ends: a package is
updated if it is stale in the files by then, and the first update that fails
is the last. -/
inductive Updates (machine : Machine σ) (command : String → List OsString)
    (expected : Path) (reached : List String) :
    List Json → List Entry → Except Stop Unit → Prop where
  | done : Updates machine command expected reached [] [] (.ok ())
  | skip {package : Json} {rest : List Json} {added : List Entry}
      {result : Except Stop Unit} {files : Files}
      (fresh : isStale machine files expected reached package = false)
      (updates : Updates machine command expected reached rest added result) :
      Updates machine command expected reached (package :: rest)
        (.disk files files :: added) result
  | update {package : Json} {rest : List Json} {added : List Entry}
      {result : Except Stop Unit} {files : Files} {id : String}
      (stale : isStale machine files expected reached package = true)
      (named : textOf package "id" = some id)
      (updates : Updates machine command expected reached rest added result) :
      Updates machine command expected reached (package :: rest)
        (.disk files files :: .status (command id) (some ⟨some 0⟩) :: added)
        result
  | refused {package : Json} {rest : List Json} {files : Files} {id : String}
      {answer : Option ExitStatus} {error : Error}
      (stale : isStale machine files expected reached package = true)
      (named : textOf package "id" = some id)
      (fails : answer ≠ some ⟨some 0⟩) :
      Updates machine command expected reached (package :: rest)
        [.disk files files, .status (command id) answer]
        (.error (.error error))

theorem exists_id {files : Files} {package : Json}
    (stale : isStale machine files expected reached package = true) :
    ∃ id ∈ reached, textOf package "id" = some id := by
  simp only [isStale, Bool.and_eq_true, Option.any_eq_true,
    decide_eq_true_eq] at stale
  obtain ⟨⟨-, id, named, member⟩, -⟩ := stale
  exact ⟨id, member, named⟩

/-- One package of the loop. -/
theorem adds_updateOne {package : Json} {rest : List Json} {files : Files}
    (stale : isStale machine files expected reached package = true)
    (later : Adds (updatePackages machine arguments manifest config expected
      version reached rest) (Updates machine
        (updateCommand arguments manifest config version) expected reached
        rest)) :
    Adds (orFail (textOf package "id") "Tokio package has no ID" >>=
      fun id => status machine (updateArguments arguments manifest id version)
          (some config) >>= fun status =>
        if status.success then
          updatePackages machine arguments manifest config expected version
            reached rest
        else
          fail "Cargo could not select the generated Tokio patch")
      fun added result => Updates machine
        (updateCommand arguments manifest config version) expected reached
        (package :: rest) (.disk files files :: added) result := by
  obtain ⟨id, -, named⟩ := exists_id stale
  rw [named]
  change Adds (status machine (updateArguments arguments manifest id version)
    (some config) >>= _) _
  refine Adds.bind adds_spawn (fun status => ?_) ?_
  · split
    · rename_i success
      refine later.consequence ?_
      rintro added result updates earlier (⟨_, rfl, same⟩ | ⟨-, failed⟩)
      · cases same
        have zero : status = ⟨some 0⟩ := by
          obtain ⟨code⟩ := status
          simpa [ExitStatus.success] using success
        rw [zero]
        exact .update stale named updates
      · cases failed
    · rename_i failure
      refine adds_fail.consequence ?_
      rintro added result ⟨rfl, rfl⟩ earlier (⟨_, rfl, same⟩ | ⟨-, failed⟩)
      · cases same
        refine .refused stale named ?_
        rintro same
        cases same
        exact failure rfl
      · cases failed
  · rintro earlier error (⟨_, -, failed⟩ | ⟨rfl, same⟩)
    · cases failed
    · cases same
      exact .refused stale named nofun

/-- Files are read, and the rest depends on them. -/
theorem adds_query_bind {α β : Type} {read : Files → α}
    {next : α → Session σ β} {fits : List Entry → Except Stop β → Prop}
    (later : ∀ files, Adds (next (read files)) fun added result =>
      fits (.disk files files :: added) result) :
    Adds (query read >>= next) fits := by
  refine .andThen adds_query ?_ ?_
  · rintro value earlier ⟨files, rfl, same⟩
    cases same
    exact later files
  · rintro earlier error ⟨files, -, failed⟩
    cases failed

theorem adds_updatePackages :
    Adds (updatePackages machine arguments manifest config expected version
      reached packages) (Updates machine
        (updateCommand arguments manifest config version) expected reached
        packages) := by
  induction packages with
  | nil => exact .pure .done
  | cons package rest ih =>
      unfold updatePackages
      refine adds_query_bind fun files => ?_
      split
      · rename_i stale
        exact adds_updateOne stale ih
      · rename_i fresh
        exact ih.consequence fun added result updates =>
          .skip (Bool.eq_false_iff.mpr fresh) updates

/-- The version in the manifest of a patch. -/
def HasVersion (editor : Editor layout) (files : Files) (patch : Path)
    (version : String) : Prop :=
  ∃ text document item, readText files (manifestPath patch) = some text ∧
    editor.parse text = some document ∧
    (document.entries.lookup "package").bind (·.get "version") = some item ∧
    item.asStr = some version

/-- What updating a graph writes down, and how it ends. -/
inductive UpdatesGraph (machine : Machine σ) (editor : Editor layout)
    (arguments : List OsString) (manifest : String) (config : Path)
    (selected : List String) (metadata : Json) :
    List Entry → Except Stop Unit → Prop where
  | stopped {error : Error} :
      UpdatesGraph machine editor arguments manifest config selected metadata
        [] (.error (.error error))
  | unread {files : Files} {error : Error} :
      UpdatesGraph machine editor arguments manifest config selected metadata
        [.disk files files] (.error (.error error))
  | updates {above : Path} {packages members : List Json}
      {reached : List String} {files : Files} {version : String}
      {added : List Entry} {result : Except Stop Unit}
      (listed : arrayOf metadata "packages" = some packages)
      (inside : arrayOf metadata "workspace_members" = some members)
      (closure : reachable metadata (memberIds packages members selected) =
        .ok reached)
      (beside : parent config = some above)
      (current : HasVersion editor files (patchOf above) version)
      (updates : Updates machine
        (updateCommand arguments manifest config version)
        (manifestPath (patchOf above)) reached (packages.filter isTokio)
        added result) :
      UpdatesGraph machine editor arguments manifest config selected metadata
        (.disk files files :: added) result

/-- What preparing a graph writes down, and how it ends: Cargo is asked for the
metadata, and then updates packages, unless the command is an update itself or
something cannot be read. -/
inductive Prepares (machine : Machine σ) (editor : Editor layout)
    (arguments : List OsString) (manifest : String) (config : Path)
    (selected : List String) : List Entry → Except Stop Unit → Prop where
  | stopped {answer : Option Output} {error : Error} :
      Prepares machine editor arguments manifest config selected
        [.output (metadataArguments arguments manifest (some config) false)
          answer] (.error (.error error))
  | updating {output : Output}
      (update : operation arguments = some "update") :
      Prepares machine editor arguments manifest config selected
        [.output (metadataArguments arguments manifest (some config) false)
          (some output)] (.ok ())
  | graph {output : Output} {metadata : Json} {added : List Entry}
      {result : Except Stop Unit} (printed : output.json = some metadata)
      (updates : UpdatesGraph machine editor arguments manifest config
        selected metadata added result) :
      Prepares machine editor arguments manifest config selected
        (.output (metadataArguments arguments manifest (some config) false)
          (some output) :: added) result

theorem patchVersion_eq_ok {document : Document layout}
    (read : patchVersion document = .ok version) :
    ∃ item, (document.entries.lookup "package").bind (·.get "version") =
      some item ∧ item.asStr = some version := by
  unfold patchVersion at read
  split at read
  · cases read
  · rename_i item found
    refine ⟨item, found, ?_⟩
    cases text : item.asStr with
    | none =>
        rw [text] at read
        cases read
    | some value =>
        rw [text] at read
        cases read
        rfl

theorem readPatch_eq_ok {world left : World} {patch : Path × String}
    (returned : readPatch editor config world = .ok patch left) :
    ∃ above, parent config = some above ∧
      patch.1 = manifestPath (patchOf above) ∧
      HasVersion editor world.files (patchOf above) patch.2 := by
  unfold readPatch at returned
  obtain ⟨above, _, there, looking⟩ := Effect.bind_eq_ok.mp returned
  obtain ⟨beside, rfl⟩ := Effect.okOr_eq_ok.mp there
  rw [Effect.query_bind] at looking
  obtain ⟨_, _, present, reading⟩ := Effect.bind_eq_ok.mp looking
  obtain ⟨-, rfl⟩ := Effect.okOr_eq_ok.mp present
  obtain ⟨text, _, reads, parsing⟩ := Effect.bind_eq_ok.mp reading
  obtain ⟨read, rfl⟩ := Effect.readToString_eq_ok.mp reads
  obtain ⟨document, _, parses, ending⟩ := Effect.bind_eq_ok.mp parsing
  obtain ⟨parsed, rfl⟩ := Effect.okOr_eq_ok.mp parses
  obtain ⟨found, _, current, last⟩ := Effect.bind_eq_ok.mp ending
  cases last
  cases versioned : patchVersion document with
  | ok version =>
      rw [versioned] at current
      cases current
      obtain ⟨item, inside, tells⟩ := patchVersion_eq_ok versioned
      exact ⟨above, beside, rfl, text, document, item, read, parsed, inside,
        tells⟩
  | error error =>
      rw [versioned] at current
      cases current

theorem preserves_readPatch {condition : Files → Prop} :
    Preserves condition (readPatch editor config) :=
  .bind (.okOr _ _) fun _ => .bind (.query _) fun _ =>
    .bind (.okOr _ _) fun _ => .bind (.readToString _) fun _ =>
      .bind (.okOr _ _) fun _ => .bind (Patching.preserves_ofExcept _)
        fun _ => .pure _

theorem adds_updateGraph :
    Adds (updateGraph machine editor arguments manifest config selected
      metadata) (UpdatesGraph machine editor arguments manifest config
        selected metadata) := by
  refine adds_orFail_bind (fun packages listed => ?_) .stopped
  refine adds_orFail_bind (fun members inside => ?_) .stopped
  refine adds_ofExcept_bind (fun reached closure => ?_) fun _ => .stopped
  refine .andThen adds_onDisk ?_ ?_
  · rintro patch earlier ⟨world, left, rfl, ⟨value, ran, same⟩ |
      ⟨_, -, failed⟩⟩
    · cases same
      obtain ⟨above, beside, expected, current⟩ := readPatch_eq_ok ran
      have kept : left.files = world.files :=
        (@preserves_readPatch _ editor config (· = world.files)).returned ran
          rfl
      rw [kept, expected]
      exact adds_updatePackages.consequence fun added result updates =>
        .updates listed inside closure beside current updates
    · cases failed
  · rintro earlier stop ⟨world, left, rfl, ⟨_, -, failed⟩ |
      ⟨error, ran, same⟩⟩
    · cases failed
    · cases same
      have kept : left.files = world.files :=
        (@preserves_readPatch _ editor config (· = world.files)).stopped ran
          rfl
      rw [kept]
      exact .unread

theorem adds_prepareGraph :
    Adds (prepareGraph machine editor arguments manifest config selected)
      (Prepares machine editor arguments manifest config selected) := by
  refine .bind adds_metadata (fun metadata => ?_) ?_
  · split
    · rename_i update
      refine .pure ?_
      rintro earlier ⟨answer, rfl, ⟨output, found, rfl, -, -⟩ |
        ⟨error, failed⟩⟩
      · exact .updating update
      · cases failed
    · refine adds_updateGraph.consequence ?_
      rintro added result updates earlier ⟨answer, rfl,
        ⟨output, found, rfl, printed, same⟩ | ⟨error, failed⟩⟩
      · cases same
        exact .graph printed updates
      · cases failed
  · rintro earlier error ⟨answer, rfl, ⟨_, _, -, -, failed⟩ |
      ⟨found, same⟩⟩
    · cases failed
    · cases same
      exact .stopped

section Selection

/-- All commands of the loop are updates. -/
theorem Updates.exists_id {command : String → List OsString}
    {added : List Entry} {result : Except Stop Unit}
    (updates : Updates machine command expected reached packages added
      result) {ran : List OsString} {answer : Option ExitStatus}
    (member : .status ran answer ∈ added) : ∃ id, ran = command id := by
  induction updates with
  | done => cases member
  | skip _ _ ih => exact ih ((List.mem_cons.mp member).resolve_left nofun)
  | update _ _ _ ih =>
      have later := (List.mem_cons.mp member).resolve_left nofun
      rcases List.mem_cons.mp later with same | rest
      · cases same
        exact ⟨_, rfl⟩
      · exact ih rest
  | refused =>
      have later := (List.mem_cons.mp member).resolve_left nofun
      cases List.mem_singleton.mp later
      exact ⟨_, rfl⟩

theorem sublist_memberIds {members : List Json} {names : List String} :
    (memberIds packages members names).Sublist
      (packages.filterMap (textOf · "id")) := by
  induction packages with
  | nil => exact List.Sublist.slnil
  | cons package rest ih =>
      simp only [memberIds, List.filterMap_cons] at ih ⊢
      cases textOf package "id" with
      | none => exact ih
      | some id =>
          dsimp only
          split
          · exact List.Sublist.cons _ ih
          · rename_i same
            split at same
            · cases same
              exact List.Sublist.cons_cons _ ih
            · cases same

/-- A package is a member of the workspace with one of some names. -/
structure IsMember (members : List Json) (names : List String)
    (package : Json) (id : String) : Prop where
  identified : textOf package "id" = some id
  inside : ∃ value ∈ members, value.asStr = some id
  named : ∃ name ∈ names, textOf package "name" = some name

theorem mem_memberIds {members : List Json} {names : List String}
    {id : String} : id ∈ memberIds packages members names ↔
      ∃ package ∈ packages, IsMember members names package id := by
  unfold memberIds
  rw [List.mem_filterMap]
  refine exists_congr fun package => and_congr_right fun _ => ?_
  cases own : textOf package "id" with
  | none => exact ⟨nofun, fun member => nomatch own.symm.trans member.1⟩
  | some other =>
      simp only [Option.ite_none_right_eq_some, Bool.and_eq_true,
        List.any_eq_true, isId, decide_eq_true_eq, Option.any_eq_true]
      constructor
      · rintro ⟨⟨inside, name, named, member⟩, same⟩
        cases same
        exact ⟨own, inside, name, member, named⟩
      · rintro ⟨identified, inside, name, member, named⟩
        cases own.symm.trans identified
        exact ⟨⟨inside, name, named, member⟩, rfl⟩

/-- A package is reached from the selected members in the graph. -/
def Reaches (nodes packages members : List Json) (selected : List String)
    (id : String) : Prop :=
  ∃ package ∈ packages, ∃ first, IsMember members selected package first ∧
    Relation.ReflTransGen (DependsOn nodes) first id

theorem exists_nodes {ids : List String}
    (closure : reachable metadata ids = .ok reached) :
    ∃ nodes, ((metadata.index "resolve").index "nodes").asArray =
      some nodes := by
  cases resolved : ((metadata.index "resolve").index "nodes").asArray with
  | none =>
      simp [reachable, reachablePackages, resolved, Except.map] at closure
  | some nodes => exact ⟨nodes, rfl⟩

theorem mem_reachable {nodes members : List Json}
    (resolved : ((metadata.index "resolve").index "nodes").asArray =
      some nodes)
    (distinct : (packages.filterMap (textOf · "id")).Nodup)
    (closure : reachable metadata (memberIds packages members selected) =
      .ok reached) {id : String} :
    id ∈ reached ↔ Reaches nodes packages members selected id := by
  obtain ⟨result, returns, -, -, mem_iff⟩ :=
    Worklist.run_exact (@closed_allDependencies nodes
      (memberIds packages members selected))
      (distinct.sublist sublist_memberIds)
  have edges : Worklist.Edge (dependenciesOf nodes) = DependsOn nodes := by
    funext first second
    exact propext mem_dependenciesOf
  have enough : (memberIds packages members selected ++
      allDependencies nodes).length <
        closureFuel metadata (memberIds packages members selected) := by
    rw [closureFuel, resolved, List.length_append]
    exact Nat.lt_succ_self _
  have same : reached = result := by
    simp only [reachable, reachablePackages, resolved,
      returns _ enough] at closure
    cases closure
    rfl
  rw [same, mem_iff, Worklist.Reachable, edges]
  simp only [mem_memberIds]
  constructor
  · rintro ⟨first, ⟨package, listed, member⟩, path⟩
    exact ⟨package, listed, first, member, path⟩
  · rintro ⟨package, listed, first, member, path⟩
    exact ⟨first, ⟨package, listed, member⟩, path⟩

/-- A Tokio that is reached, that is not the patch, and that is from the
registry or a patch that was generated. -/
structure Stale (machine : Machine σ) (files : Files) (expected : Path)
    (reaches : String → Prop) (package : Json) (id : String) : Prop where
  named : textOf package "id" = some id
  reached : reaches id
  other : canonicalManifest machine files package ≠ some expected
  replaced : cratesIo package = true ∨
    generatedPatch machine files package = true

theorem isStale_iff {files : Files} {package : Json}
    {reaches : String → Prop} (mem_iff : ∀ {id}, id ∈ reached ↔ reaches id) :
    isStale machine files expected reached package = true ↔
      ∃ id, Stale machine files expected reaches package id := by
  simp only [isStale, Bool.and_eq_true, Bool.or_eq_true, decide_eq_true_eq,
    Option.any_eq_true]
  constructor
  · rintro ⟨⟨other, id, named, member⟩, replaced⟩
    exact ⟨id, named, mem_iff.mp member, other, replaced⟩
  · rintro ⟨id, named, reached, other, replaced⟩
    exact ⟨⟨other, id, named, mem_iff.mpr reached⟩, replaced⟩

/-- What is written down where a graph could be prepared: for each of some
packages the files as the loop came to it, and its update if and only if it
was stale in them. -/
inductive Selects (machine : Machine σ) (command : String → List OsString)
    (expected : Path) (reaches : String → Prop) :
    List Json → List Entry → Prop where
  | done : Selects machine command expected reaches [] []
  | keep {package : Json} {rest : List Json} {updates : List Entry}
      {files : Files}
      (fresh : ∀ id, ¬ Stale machine files expected reaches package id)
      (later : Selects machine command expected reaches rest updates) :
      Selects machine command expected reaches (package :: rest)
        (.disk files files :: updates)
  | update {package : Json} {rest : List Json} {updates : List Entry}
      {files : Files} {id : String}
      (stale : Stale machine files expected reaches package id)
      (later : Selects machine command expected reaches rest updates) :
      Selects machine command expected reaches (package :: rest)
        (.disk files files :: .status (command id) (some ⟨some 0⟩) ::
          updates)

theorem Updates.selects {command : String → List OsString}
    {added : List Entry} {result : Except Stop Unit}
    {reaches : String → Prop} (mem_iff : ∀ {id}, id ∈ reached ↔ reaches id)
    (updates : Updates machine command expected reached packages added
      result) (ended : result = .ok ()) :
    Selects machine command expected reaches packages added := by
  induction updates with
  | done => exact .done
  | skip fresh _ ih =>
      refine .keep (fun id stale => ?_) (ih ended)
      rw [(isStale_iff mem_iff).mpr ⟨id, stale⟩] at fresh
      cases fresh
  | update stale named _ ih =>
      obtain ⟨id, found⟩ := (isStale_iff mem_iff).mp stale
      cases named.symm.trans found.named
      exact .update found (ih ended)
  | refused => cases ended

end Selection

/-- In every run that returns, whatever Cargo does meanwhile: the metadata
that Cargo printed with the configuration has packages, members and a graph;
the version is the one in the manifest of the patch beside the configuration;
and if the ids are distinct, exactly the Tokio packages are updated to it that
the selected members reach, that are not the patch, and that are from the
registry or generated. -/
theorem prepareGraph_selects :
    Adds (prepareGraph machine editor arguments manifest config selected)
      fun added result => operation arguments ≠ some "update" →
        result = .ok () →
        ∃ output metadata packages members nodes above files version updates,
          added = .output (metadataArguments arguments manifest (some config)
            false) (some output) :: .disk files files :: updates ∧
          output.json = some metadata ∧
          arrayOf metadata "packages" = some packages ∧
          arrayOf metadata "workspace_members" = some members ∧
          ((metadata.index "resolve").index "nodes").asArray = some nodes ∧
          parent config = some above ∧
          HasVersion editor files (patchOf above) version ∧
          ((packages.filterMap (textOf · "id")).Nodup →
            Selects machine (updateCommand arguments manifest config version)
              (manifestPath (patchOf above))
              (Reaches nodes packages members selected)
              (packages.filter isTokio) updates) := by
  refine adds_prepareGraph.consequence ?_
  rintro added result prepares other rfl
  cases prepares with
  | updating update => exact absurd update other
  | graph printed graph =>
      cases graph with
      | updates listed inside closure beside current updates =>
          obtain ⟨nodes, resolved⟩ := exists_nodes closure
          exact ⟨_, _, _, _, nodes, _, _, _, _, rfl, printed, listed, inside,
            resolved, beside, current, fun distinct =>
              updates.selects (mem_reachable resolved distinct closure) rfl⟩

end Telekio.Wrapper
