import Telekio.Patching.Removal

/-!
# What the commands come to

`init` and `remove` of `telekio/src/project.rs` on any files: what a run that
returns has done, and what no run changes.
-/

namespace Telekio.Patching

open Telekio.Disk
open Telekio.Toml

variable {json layout : Type} {editor : Editor layout} {tools : Tools json}
variable {cargo : Cargo json} {source dependency role : Role}
variable {above root manifest path : Path} {selected : Package json}
variable {entries : List (String × Node)} {table original : Table}
variable {preamble : String} {world left : World} {base : Files}

/-- In every run that returns, the patch is written. -/
theorem after_regeneratePatch
    (package : TokioPackage tools cargo selected entries table original
      preamble source dependency) :
    Triple (fun _ => True)
      (regeneratePatch tools cargo (patchOf above) source dependency)
      (fun _ => Written tools (patchOf above) source dependency (.table table)
        (.table original) preamble) (fun _ => True) := by
  have wrote : ∀ found, Triple
      (fun files => Rooted files (cacheOf above) ∧
        found = (destinationOf (cacheOf above) "tokio" tokioVersion,
          selected.features) ∧
        Copied (destinationOf (cacheOf above) "tokio" tokioVersion) entries
          files)
      (writePatch tools (patchOf above) found.1 found.2 source dependency)
      (fun _ => Written tools (patchOf above) source dependency (.table table)
        (.table original) preamble) (fun _ => True) := by
    rintro found world ⟨-, rfl, copied⟩
    exact after_writePatch world (package.isTokio copied).provides
  have removed : ∀ base, True → Preserves
      (AgreeOutside (Along (cacheOf above)) base)
      (Effect.removeDirAll (cacheOf above)) :=
    fun _ _ => preserves_removeDirAll fun _ => Or.inl
  have kept := Triple.of_agree removed
    fun agree (written : Written tools (patchOf above) source dependency
      (.table table) (.table original) preamble _) =>
        written_of_agree written agree
  rw [regeneratePatch_patchOf]
  exact .bind (after_preparePackage package.registered) fun found =>
    .bind (wrote found) fun _ => kept.consequence
      (fun _ written => ⟨trivial, written⟩) (fun _ _ => id)
      fun _ _ => trivial

/-- In every run that returns, the patch is current for its roles. -/
theorem after_preparePatchWith (lawful : tools.format.Lawful manifestComment)
    (package : TokioPackage tools cargo selected entries table original
      preamble source dependency) :
    Triple (fun _ => True)
      (preparePatchWith tools cargo (patchOf above) source dependency)
      (fun _ files => patchCurrent tools (patchOf above) source dependency
        files = .ok true) (fun _ => True) := by
  intro world _
  cases checked : patchCurrent tools (patchOf above) source dependency
      world.files with
  | error error =>
      simp only [preparePatchWith, Effect.query, Bind.bind, EStateM.bind,
        checked]
      trivial
  | ok current =>
      rw [preparePatchWith_of_checked checked]
      cases current with
      | true => exact checked
      | false =>
          have regenerated : Triple (fun _ => True)
              (regeneratePatch tools cargo (patchOf above) source dependency)
              (fun _ files => patchCurrent tools (patchOf above) source
                dependency files = .ok true) (fun _ => True) :=
            (after_regeneratePatch package).consequence (fun _ => id)
              (fun _ _ => patchCurrent_of_package lawful package)
              fun _ => id
          exact regenerated world trivial

/-- The manifest, and the directory of the patch beside it. -/
def Project (manifest path : Path) : Prop :=
  path = manifest ∨
    ∃ root, parent manifest = some root ∧ Along (telekioOf root) path

theorem eq_of_parent (beside : parent manifest = some root) :
    ∃ name, manifest = root ++ [name] := by
  unfold parent at beside
  split at beside
  · cases beside
  · rename_i proper
    cases beside
    exact ⟨_, (List.dropLast_append_getLast proper).symm⟩

/-- What `init` has done to a manifest: it is written with the patch of Telekio
added to what was read, the patch beside it is current for the role if Tokio
can be had, and nothing else has changed. -/
structure Inits (editor : Editor layout) (tools : Tools json)
    (cargo : Cargo json) (manifest : Path) (role : Role)
    (root : Path) (document changed : Document layout)
    (before after : Files) : Prop where
  beside : parent manifest = some root
  read : ∃ text, readText before manifest = some text ∧
    editor.parse text = some document
  own : foreignPatch document = false
  valid : validateDestination (directoryOf root) before = .ok ()
  set : setPatch document = .ok changed
  written : entryAt after manifest =
    some (.file (editor.print changed).toUTF8)
  current : ∀ {selected entries table original preamble},
    tools.format.Lawful manifestComment →
    TokioPackage tools cargo selected entries table original preamble role
      role →
    patchCurrent tools (directoryOf root) role role after = .ok true
  others : AgreeOutside (Project manifest) before after

/-- What `remove` has done to a manifest that names the patch of Telekio: the
patch is taken out of it, the directory of the patch is gone, and nothing else
has changed. -/
structure Removes (editor : Editor layout) (manifest : Path)
    (root : Path) (document final : Document layout)
    (before after : Files) : Prop where
  beside : parent manifest = some root
  read : ∃ text, readText before manifest = some text ∧
    editor.parse text = some document
  named : patchPathOf document = some patchPath
  validPatch : validatePatch before (directoryOf root) = .ok ()
  validParent : validateParent before (telekioOf root) = .ok ()
  removed : removePatch document = .ok final
  written : entryAt after manifest = some (.file (editor.print final).toUTF8)
  gone : VacantBelow after (telekioOf root)
  others : AgreeOutside (Project manifest) before after

theorem ofExcept_eq_ok {α : Type} {result : Except Error α} {value : α} :
    ofExcept result world = .ok value left ↔
      result = .ok value ∧ left = world := by
  cases result with
  | ok found =>
      constructor
      · intro same
        cases same
        exact ⟨rfl, rfl⟩
      · rintro ⟨same, rfl⟩
        cases same
        rfl
  | error error =>
      constructor
      · intro same
        cases same
      · rintro ⟨⟨⟩, -⟩

theorem preserves_init : Preserves (AgreeOutside (Project manifest) base)
    (init editor tools cargo manifest role) := by
  refine .okOr_bind fun root beside => .bind (.readToString _) fun text =>
    .bind (.okOr _ _) fun document => .ite (.throw _) ?_
  have within : ∀ path, Along (telekioOf root) path →
      Project manifest path :=
    fun path along => Or.inr ⟨root, beside, along⟩
  exact .bind (.query _) fun checked =>
    .bind (preserves_ofExcept _) fun _ =>
      .bind (.widen (fun _ => preserves_preparePatchWith
        preserves_regeneratePatch) within) fun _ =>
        .bind (preserves_ofExcept _) fun changed =>
          preserves_write (Or.inl rfl)

theorem preserves_remove : Preserves (AgreeOutside (Project manifest) base)
    (remove editor manifest) := by
  refine .okOr_bind fun root beside => .bind (.readToString _) fun text =>
    .bind (.okOr _ _) fun document => .ite (.throw _) ?_
  exact .bind (.query _) fun checked => .bind (preserves_ofExcept _) fun _ =>
    .bind (.query _) fun checkedParent =>
      .bind (preserves_ofExcept _) fun _ =>
        .bind (preserves_ofExcept _) fun final =>
          .bind (preserves_write (Or.inl rfl)) fun _ =>
            preserves_removeDirAll fun below inside =>
              Or.inr ⟨root, beside, Or.inl inside⟩

/-- Writing the manifest leaves the patch beside it as it is. -/
theorem patchCurrent_of_manifest {after : Files}
    (beside : parent manifest = some root)
    (agree : AgreeOutside (· = manifest) base after)
    (current : patchCurrent tools (directoryOf root) source dependency base =
      .ok true) :
    patchCurrent tools (directoryOf root) source dependency after =
      .ok true := by
  obtain ⟨name, rfl⟩ := eq_of_parent beside
  have other : ∀ {rest}, directoryOf root ++ rest ≠ root ++ [name] := by
    intro rest same
    have lengths := congrArg List.length same
    simp [directoryOf, patchOf, telekioOf] at lengths
  rw [← current]
  exact patchCurrent_congr (agree _ other) (agree _ other) (agree _ other)

/-- A run of `init` that returns, on any files. -/
theorem inits_of_returned
    (returned : init editor tools cargo manifest role world = .ok () left) :
    ∃ root document changed, Inits editor tools cargo manifest role root
      document changed world.files left.files := by
  obtain ⟨root, _, above, reading⟩ := Effect.bind_eq_ok.mp returned
  obtain ⟨beside, rfl⟩ := Effect.okOr_eq_ok.mp above
  obtain ⟨text, _, reads, parsing⟩ := Effect.bind_eq_ok.mp reading
  obtain ⟨read, rfl⟩ := Effect.readToString_eq_ok.mp reads
  obtain ⟨document, _, parses, guarded⟩ := Effect.bind_eq_ok.mp parsing
  obtain ⟨parsed, rfl⟩ := Effect.okOr_eq_ok.mp parses
  split at guarded
  · cases guarded
  · rename_i own
    rw [patchProject, Effect.query_bind] at guarded
    obtain ⟨_, _, checked, preparing⟩ := Effect.bind_eq_ok.mp guarded
    obtain ⟨valid, rfl⟩ := ofExcept_eq_ok.mp checked
    obtain ⟨_, prepared, ran, setting⟩ := Effect.bind_eq_ok.mp preparing
    obtain ⟨changed, _, sets, wrote⟩ := Effect.bind_eq_ok.mp setting
    obtain ⟨set, rfl⟩ := ofExcept_eq_ok.mp sets
    refine ⟨root, document, changed, beside, ⟨text, read, parsed⟩,
      by simpa using own, valid, set, ?_, ?_,
      preserves_init.returned returned (.refl _ _)⟩
    · exact (@after_write _ _ fun _ => True).returned wrote trivial
    · intro selected entries table original preamble lawful package
      have current := (@after_preparePatchWith _ tools cargo _ _
        (telekioOf root) _ _ _ _ _ lawful package).returned ran trivial
      have agree := (@preserves_write (· = manifest) _ manifest _ rfl).returned
        wrote (.refl _ _)
      exact patchCurrent_of_manifest beside agree current

/-- A run of `remove` that returns, on any files. -/
theorem removes_of_returned
    (returned : remove editor manifest world = .ok () left) :
    ∃ root document final, Removes editor manifest root document final
      world.files left.files := by
  obtain ⟨root, _, above, reading⟩ := Effect.bind_eq_ok.mp returned
  obtain ⟨beside, rfl⟩ := Effect.okOr_eq_ok.mp above
  obtain ⟨text, _, reads, parsing⟩ := Effect.bind_eq_ok.mp reading
  obtain ⟨read, rfl⟩ := Effect.readToString_eq_ok.mp reads
  obtain ⟨document, _, parses, guarded⟩ := Effect.bind_eq_ok.mp parsing
  obtain ⟨parsed, rfl⟩ := Effect.okOr_eq_ok.mp parses
  split at guarded
  · cases guarded
  · rename_i own
    rw [Effect.query_bind] at guarded
    obtain ⟨_, _, checked, later⟩ := Effect.bind_eq_ok.mp guarded
    obtain ⟨validPatch, rfl⟩ := ofExcept_eq_ok.mp checked
    rw [Effect.query_bind] at later
    obtain ⟨_, _, checkedParent, removing⟩ := Effect.bind_eq_ok.mp later
    obtain ⟨validParent, rfl⟩ := ofExcept_eq_ok.mp checkedParent
    obtain ⟨final, _, removes, writing⟩ := Effect.bind_eq_ok.mp removing
    obtain ⟨removed, rfl⟩ := ofExcept_eq_ok.mp removes
    obtain ⟨_, middle, wrote, deleting⟩ := Effect.bind_eq_ok.mp writing
    have written := (@after_write _ _ fun _ => True).returned wrote trivial
    have gone := (@after_removeDirAll (telekioOf root)
      fun _ => True).returned deleting trivial
    refine ⟨root, document, final, beside, ⟨text, read, parsed⟩,
      not_not.mp own, validPatch, validParent, removed, ?_, gone,
      preserves_remove.returned returned (.refl _ _)⟩
    obtain ⟨name, rfl⟩ := eq_of_parent beside
    -- the manifest is a file, and the directory of the patch is none
    have apart : ¬ telekioOf root <+: root ++ [name] := by
      intro inside
      have same : telekioOf root = root ++ [name] :=
        inside.eq_of_length (by simp [telekioOf])
      refine not_directory_of_readText ⟨text, read⟩ ?_
      rw [← same]
      exact (validateNames_eq_ok.mp validParent).1
    exact (keeps_removeDirAll apart).returned deleting written

end Telekio.Patching
