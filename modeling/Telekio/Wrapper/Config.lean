import Telekio.Patching.Commands
import Telekio.Wrapper.Session

/-!
# Caches and configurations

`prepare_config`, `cache_directory` and `write_config` of
`telekio/src/main.rs`: there is a cache with a patch for each role, and a file
beside it that tells Cargo of the patch.
-/

namespace Telekio.Wrapper

open Telekio.Disk
open Telekio.Journal
open Telekio.Patching

variable {σ json : Type}

/-- The directories of a cache below `telekio`. -/
def cacheName : Role → Bool → Path
  | .host, _ => ["host"]
  | .guest, false => ["guest"]
  | .guest, true => ["mixed", "guest"]

def cacheParent (tempDir : Path) (role : Role) (mixed : Bool) : Path :=
  tempDir ++ ["telekio"] ++ cacheName role mixed

def configPath (tempDir : Path) (role : Role) (mixed : Bool) : Path :=
  cacheParent tempDir role mixed ++ ["config.toml"]

/-- The role that the patch is for where other packages depend on it. -/
def dependencyRole : Role → Bool → Role
  | .host, _ => .host
  | .guest, false => .guest
  | .guest, true => .host

def cacheDirectory (tempDir : Path) : Effect Path := do
  Effect.createDirAll (tempDir ++ ["telekio"])
  return tempDir ++ ["telekio"]

/-- A lock is taken, which can fail and changes nothing. -/
def lock : Effect Unit :=
  Effect.change .io (fun _ files => files) some

variable (tools : Tools json) (cargo : Cargo json)

def configText (patch : Path) : String :=
  "[patch.crates-io.tokio]\npath = " ++ tools.quote (display patch) ++ "\n"

def writeConfig (patch : Path) : Effect Path := do
  let above ← Effect.okOr (parent patch)
    (.message "patch directory has no parent")
  Effect.write (above ++ ["config.toml"]) (configText tools patch).toUTF8
  return above ++ ["config.toml"]

def preparePatches (patch : Path) (role : Role) (mixed : Bool) :
    Effect Unit :=
  if role = .guest && mixed then
    prepareMixedGuestPatch tools cargo patch
  else
    preparePatch tools cargo patch role

/-- The part of `prepare_config` after the cache is named. -/
def fillConfig (above : Path) (role : Role) (mixed : Bool) : Effect Path := do
  Effect.createDirAll above
  Effect.write (above ++ ["lock"]) ByteArray.empty
  lock
  preparePatches tools cargo (patchOf above) role mixed
  writeConfig tools (patchOf above)

def prepareConfig (tempDir : Path) (role : Role) (mixed : Bool) :
    Effect Path := do
  let directory ← cacheDirectory tempDir
  fillConfig tools cargo (directory ++ cacheName role mixed) role mixed

variable {tools} {cargo} {tempDir : Path} {role other : Role}
variable {mixed otherMixed : Bool} {above : Path}

theorem preparePatches_eq :
    preparePatches tools cargo (patchOf above) role mixed =
      preparePatchWith tools cargo (patchOf above) role
        (dependencyRole role mixed) := by
  cases role with
  | host => rfl
  | guest => cases mixed <;> rfl

theorem writeConfig_patchOf : writeConfig tools (patchOf above) =
    (Effect.write (above ++ ["config.toml"])
      (configText tools (patchOf above)).toUTF8 >>= fun _ =>
        pure (above ++ ["config.toml"])) := by
  rw [writeConfig, parent_patchOf]
  rfl

theorem prepareConfig_eq : prepareConfig tools cargo tempDir role mixed =
    (Effect.createDirAll (tempDir ++ ["telekio"]) >>= fun _ =>
      fillConfig tools cargo (cacheParent tempDir role mixed) role
        mixed) := by
  unfold prepareConfig cacheDirectory
  rw [bind_assoc]
  rfl

/-- The first part of a preparation makes the cache and locks it. -/
theorem prepareConfig_eq_bind : prepareConfig tools cargo tempDir role mixed =
    (Effect.createDirAll (tempDir ++ ["telekio"]) >>= fun _ =>
      Effect.createDirAll (cacheParent tempDir role mixed) >>= fun _ =>
        Effect.write (cacheParent tempDir role mixed ++ ["lock"])
          ByteArray.empty >>= fun _ => lock) >>= fun _ =>
    preparePatchWith tools cargo (patchOf (cacheParent tempDir role mixed))
      role (dependencyRole role mixed) >>= fun _ =>
    Effect.write (configPath tempDir role mixed) (configText tools
      (patchOf (cacheParent tempDir role mixed))).toUTF8 >>= fun _ =>
        pure (configPath tempDir role mixed) := by
  rw [prepareConfig_eq, fillConfig, preparePatches_eq, writeConfig_patchOf]
  simp only [bind_assoc]
  rfl

/-- Whatever was there, a preparation that returns has returned the
configuration of the cache. -/
theorem prepareConfig_returns {world left : World} {path : Path}
    (returned : prepareConfig tools cargo tempDir role mixed world =
      .ok path left) : path = configPath tempDir role mixed := by
  rw [prepareConfig_eq] at returned
  obtain ⟨_, _, -, filled⟩ := Effect.bind_eq_ok.mp returned
  rw [fillConfig, writeConfig_patchOf] at filled
  obtain ⟨_, _, -, filled⟩ := Effect.bind_eq_ok.mp filled
  obtain ⟨_, _, -, filled⟩ := Effect.bind_eq_ok.mp filled
  obtain ⟨_, _, -, filled⟩ := Effect.bind_eq_ok.mp filled
  obtain ⟨_, _, -, filled⟩ := Effect.bind_eq_ok.mp filled
  obtain ⟨_, _, -, filled⟩ := Effect.bind_eq_ok.mp filled
  cases filled
  rfl

section Frames

variable {base : Files}

theorem along_cacheParent {rest : Path} :
    Along above (above ++ rest) :=
  Or.inl (List.prefix_append _ _)

theorem preserves_lock {condition : Files → Prop} :
    Preserves condition lock :=
  .change (fun _ _ holds => holds) fun _ _ holds same =>
    Option.some.inj same ▸ holds

theorem preserves_fillConfig :
    Preserves (AgreeOutside (Along above) base)
      (fillConfig tools cargo above role mixed) := by
  have self : Along above above := Or.inl List.prefix_rfl
  have writes : ∀ name contents, Preserves (AgreeOutside (Along above) base)
      (Effect.write (above ++ [name]) contents) :=
    fun name contents => preserves_write along_cacheParent
  rw [fillConfig, preparePatches_eq, writeConfig_patchOf]
  exact .bind (preserves_createDirAll self.anchored) fun _ =>
    .bind (writes _ _) fun _ =>
      .bind preserves_lock fun _ =>
        .bind (preserves_preparePatchWith preserves_regeneratePatch)
          fun _ => .bind (writes _ _) fun _ => .pure _

/-- Whatever fails, nothing changes but the cache of the role and what is
above it. -/
theorem preserves_prepareConfig :
    Preserves (AgreeOutside (Along (cacheParent tempDir role mixed)) base)
      (prepareConfig tools cargo tempDir role mixed) := by
  rw [prepareConfig_eq]
  refine .bind (preserves_createDirAll ?_) fun _ => preserves_fillConfig
  have above : Along (cacheParent tempDir role mixed)
      (tempDir ++ ["telekio"]) :=
    Or.inr (List.prefix_append _ _)
  exact above.anchored

end Frames

theorem not_along_cacheName {rest : Path}
    (different : cacheName role mixed ≠ cacheName other otherMixed) :
    ¬ Along (cacheName role mixed) (cacheName other otherMixed ++ rest) := by
  rintro (below | upper)
  · cases role <;> cases mixed <;> cases other <;> cases otherMixed <;>
      simp_all [cacheName]
  · cases role <;> cases mixed <;> cases other <;> cases otherMixed <;>
      simp_all [cacheName]

theorem along_append_iff {above first second : Path} :
    Along (above ++ first) (above ++ second) ↔ Along first second := by
  simp only [Along, List.prefix_append_right_inj]

theorem not_along_cacheParent {rest : Path}
    (different : cacheName role mixed ≠ cacheName other otherMixed) :
    ¬ Along (cacheParent tempDir role mixed)
      (cacheParent tempDir other otherMixed ++ rest) := by
  rw [cacheParent, cacheParent, List.append_assoc (tempDir ++ ["telekio"]),
    along_append_iff]
  exact not_along_cacheName different

/-! ## What a cache holds -/

section Current

variable {selected : Package json} {entries : List (String × Node)}
variable {root original : Toml.Table} {preamble : String}
variable {source dependency : Role}

/-- A cache with a patch for its roles, and a configuration that names it. -/
structure Prepared (tools : Tools json) (tempDir : Path) (role : Role)
    (mixed : Bool) (files : Files) : Prop where
  patch : patchCurrent tools (patchOf (cacheParent tempDir role mixed)) role
    (dependencyRole role mixed) files = .ok true
  config : entryAt files (configPath tempDir role mixed) =
    some (.file (configText tools
      (patchOf (cacheParent tempDir role mixed))).toUTF8)

theorem configPath_ne {rest : Path} :
    above ++ ["config.toml"] ≠ patchOf above ++ rest := by
  intro same
  rw [patchOf, List.append_assoc, List.append_cancel_left_eq] at same
  simp at same

/-- Writing the configuration leaves the patch as it is. -/
theorem keeps_patchCurrent {contents : ByteArray} :
    Preserves (fun files => patchCurrent tools (patchOf above) source
      dependency files = .ok true)
      (Effect.write (above ++ ["config.toml"]) contents) := by
  have region : ∀ base, True → Preserves
      (AgreeOutside (· = above ++ ["config.toml"]) base)
      (Effect.write (above ++ ["config.toml"]) contents) :=
    fun _ _ => preserves_write rfl
  have kept := Triple.of_agree region
    (fun {base files} agree (current : patchCurrent tools (patchOf above)
      source dependency base = .ok true) => (patchCurrent_congr
        (agree _ (Ne.symm configPath_ne)) (agree _ (Ne.symm configPath_ne))
        (agree _ (Ne.symm configPath_ne))).trans current)
  exact kept.consequence (fun _ current => ⟨trivial, current⟩)
    (fun _ _ => id) fun _ => id

/-- In every run that returns, the configuration is written last. -/
theorem after_prepareConfig :
    Triple (fun _ => True) (prepareConfig tools cargo tempDir role mixed)
      (fun _ files => entryAt files (configPath tempDir role mixed) =
        some (.file (configText tools
          (patchOf (cacheParent tempDir role mixed))).toUTF8))
      (fun _ => True) := by
  rw [prepareConfig_eq_bind]
  exact .bind .trivial fun _ => .bind .trivial fun _ =>
    .bind after_write fun _ => .pure fun _ => id

/-- In every run that returns, the patch of the cache is current. -/
theorem current_prepareConfig (lawful : tools.format.Lawful manifestComment)
    (package : TokioPackage tools cargo selected entries root original
      preamble role (dependencyRole role mixed)) :
    Triple (fun _ => True) (prepareConfig tools cargo tempDir role mixed)
      (fun _ files => patchCurrent tools
        (patchOf (cacheParent tempDir role mixed)) role
          (dependencyRole role mixed) files = .ok true) (fun _ => True) := by
  have written := (@keeps_patchCurrent _ tools
    (cacheParent tempDir role mixed) role (dependencyRole role mixed)
    (configText tools (patchOf (cacheParent tempDir role mixed))).toUTF8)
  rw [prepareConfig_eq_bind]
  exact .bind .trivial fun _ =>
    .bind (after_preparePatchWith lawful package) fun _ =>
      .bind (written.consequence (fun _ => id) (fun _ _ => id)
        fun _ _ => trivial) fun _ => .pure fun _ => id

/-- Whatever was in the caches and whatever fails: a preparation that returns
has returned the configuration of its cache, which names a patch that is
current for the roles; and however it ends, the caches of the other roles are
as they were. -/
theorem prepareConfig_isolated
    (lawful : tools.format.Lawful manifestComment)
    (package : TokioPackage tools cargo selected entries root original
      preamble role (dependencyRole role mixed)) (world : World) :
    (∀ path left, prepareConfig tools cargo tempDir role mixed world =
        .ok path left →
      path = configPath tempDir role mixed ∧
        Prepared tools tempDir role mixed left.files) ∧
    ∀ left, ((∃ path, prepareConfig tools cargo tempDir role mixed world =
        .ok path left) ∨
      ∃ error, prepareConfig tools cargo tempDir role mixed world =
        .error error left) →
      ∀ other otherMixed,
        cacheName role mixed ≠ cacheName other otherMixed →
        ∀ rest, entryAt left.files
            (cacheParent tempDir other otherMixed ++ rest) =
          entryAt world.files
            (cacheParent tempDir other otherMixed ++ rest) := by
  constructor
  · intro path left returned
    exact ⟨prepareConfig_returns returned,
      (current_prepareConfig lawful package).returned returned trivial,
      after_prepareConfig.returned returned trivial⟩
  · intro left ended other otherMixed different rest
    have agree := @preserves_prepareConfig _ tools cargo tempDir role mixed
      world.files world (.refl _ _)
    rcases ended with ⟨path, returned⟩ | ⟨error, stopped⟩
    · rw [returned] at agree
      exact agree _ (not_along_cacheParent different)
    · rw [stopped] at agree
      exact agree _ (not_along_cacheParent different)

end Current

def mixedCache : Path :=
  ["tmp", "telekio", "mixed", "guest"]

/-- The cache for a guest in a mixed workspace, made and locked. -/
def lockedFiles : Files :=
  [(mixedCache ++ ["lock"], .file ByteArray.empty), (mixedCache, .directory),
    (["tmp", "telekio", "mixed"], .directory),
    (["tmp", "telekio"], .directory), (["tmp"], .directory)]

theorem fresh_lockedFiles : Fresh (cacheOf mixedCache) lockedFiles where
  creatable := creatable_of_inits (by decide)
  vacant := by
    rintro below ⟨rest, rfl⟩
    simp [cacheOf, mixedCache, entryAt, lockedFiles, List.lookup_cons]

theorem patchable_lockedFiles :
    Patchable (patchOf mixedCache) lockedFiles where
  creatable := creatable_of_inits (by decide)
  manifest := by decide
  build := by decide
  lib := by decide

/-- The patch of the sample is prepared, and nothing is there where the
configuration is written. -/
theorem prepares_lockedFiles {patched : Toml.Value}
    (generated : patchManifest ⟨"0.1.0", "1.98"⟩ (.table sampleRoot)
      (.table sampleFeatures) .guest .host = .ok patched) :
    ∃ left, preparePatchWith
        (sampleTools sampleText guestHostText sampleRoot patched)
        (sampleCargo sampleText) (patchOf mixedCache) .guest .host
          ⟨lockedFiles, []⟩ = .ok () ⟨left, []⟩ ∧
      writable left (mixedCache ++ ["config.toml"]) = true := by
  have other : sampleText ≠ manifestComment ++ guestHostText := by decide
  obtain ⟨result, prepared, prepares, -⟩ :=
    succeeds_preparePackage (@sampleCargo_registered sampleText)
      sampleEntries_regular lockedFiles fresh_lockedFiles
  obtain ⟨left, ran, -⟩ := preparePatchWith_of_readable
    (sampleFormat_lawful sampleRoot_formed generated)
    (sample_tokioPackage other generated) patchable_lockedFiles prepares
    (Or.inl (by decide))
  have kept := (preserves_preparePatchWith (@keeps_regeneratePatch _
    (sampleTools sampleText guestHostText sampleRoot patched)
    (sampleCargo sampleText) .guest .host mixedCache mixedCache
    List.prefix_rfl)).returned ran rfl
  have agree := (preserves_preparePatchWith (@preserves_within _
    (sampleTools sampleText guestHostText sampleRoot patched)
    (sampleCargo sampleText) .guest .host mixedCache lockedFiles)).returned
    ran (.refl _ _)
  have apart : ¬ Within mixedCache (mixedCache ++ ["config.toml"]) := by
    simp [Within, Along, cacheOf, patchOf, mixedCache]
  have absent : entryAt left (mixedCache ++ ["config.toml"]) = none :=
    agree _ apart
  refine ⟨left, ran, ?_⟩
  have there : entryAt left mixedCache = some .directory := kept
  simp [writable, isDirectory, there, absent]

/-- The preparation for a guest in a mixed workspace, from an empty disk. -/
theorem prepareConfig_isolated_mixed :
    ∃ patched left, prepareConfig
        (sampleTools sampleText guestHostText sampleRoot patched)
        (sampleCargo sampleText) ["tmp"] .guest true ⟨[], []⟩ =
          .ok (configPath ["tmp"] .guest true) left ∧
      Prepared (sampleTools sampleText guestHostText sampleRoot patched)
        ["tmp"] .guest true left.files ∧
      ∀ other otherMixed,
        cacheName .guest true ≠ cacheName other otherMixed →
        entryAt left.files (configPath ["tmp"] other otherMixed) = none := by
  obtain ⟨patched, generated⟩ : ∃ patched,
      patchManifest ⟨"0.1.0", "1.98"⟩ (.table sampleRoot)
        (.table sampleFeatures) .guest .host = .ok patched := ⟨_, rfl⟩
  have apart : sampleText ≠ manifestComment ++ guestHostText := by decide
  obtain ⟨left, ran, writes⟩ := prepares_lockedFiles generated
  obtain ⟨_, last, wrote, -⟩ := @succeeds_write
    (mixedCache ++ ["config.toml"]) (configText
      (sampleTools sampleText guestHostText sampleRoot patched)
      (patchOf mixedCache)).toUTF8 left writes
  have returned : prepareConfig
      (sampleTools sampleText guestHostText sampleRoot patched)
      (sampleCargo sampleText) ["tmp"] .guest true ⟨[], []⟩ =
        .ok (configPath ["tmp"] .guest true) ⟨last, []⟩ := by
    have locked : (Effect.createDirAll (["tmp"] ++ ["telekio"]) >>= fun _ =>
        Effect.createDirAll (cacheParent ["tmp"] .guest true) >>= fun _ =>
          Effect.write (cacheParent ["tmp"] .guest true ++ ["lock"])
            ByteArray.empty >>= fun _ => lock) ⟨[], []⟩ =
              .ok () ⟨lockedFiles, []⟩ :=
      rfl
    have same : cacheParent ["tmp"] .guest true = mixedCache := rfl
    rw [prepareConfig_eq_bind, Effect.bind_of_ok locked, configPath, same,
      dependencyRole, Effect.bind_of_ok ran, Effect.bind_of_ok wrote]
    rfl
  have isolated := @prepareConfig_isolated _ _ _ ["tmp"] .guest true _ _ _ _ _
    (sampleFormat_lawful sampleRoot_formed generated)
    (sample_tokioPackage apart generated) ⟨[], []⟩
  obtain ⟨-, current⟩ := isolated.1 _ _ returned
  refine ⟨patched, _, returned, current, fun other otherMixed different => ?_⟩
  exact isolated.2 _ (Or.inl ⟨_, returned⟩) other otherMixed different
    ["config.toml"]

end Telekio.Wrapper
