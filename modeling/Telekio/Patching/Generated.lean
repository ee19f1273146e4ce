import Telekio.Patching.Manifest

/-!
# Generated manifests

What is under each key of a generated manifest that the checker looks at, and
that a generated manifest is well-formed, so that it can be written and read.
-/

namespace Telekio.Patching

open Telekio.Toml

/-- The targets that the generator keeps. -/
def retainedTargets (root : Table) : Option Table :=
  ((root.lookup "target").bind Value.asTable).map
    (List.filterMap retainTarget)

/-- The entries of `patched`, which is generated from `root`. -/
structure IsPatched (release : Release) (root : Table) (features : Value)
    (source dependency : Role) (patched : Table) : Prop where
  package : ∃ package, patched.lookup "package" =
    some (.table (patchPackage release package))
  features : ∃ original forwarded, features = .table original ∧
    patched.lookup "features" = some (.table forwarded) ∧
    forwardTo dependency original = .ok forwarded
  dependencies : ∃ dependencies,
    root.lookup "dependencies" = some (.table dependencies) ∧
    patched.lookup "dependencies" =
      some (.table (patchDependencies release source dependencies))
  buildDependencies : patched.lookup "build-dependencies" =
    some (.table [("telekio-build",
      .table (registryDependency release none))])
  removed : ∀ key ∈ ["bench", "bin", "dev-dependencies", "example", "test"],
    patched.lookup key = none
  targets : if dependency = .host then
      ∃ native dependencies,
        (((retainedTargets root).getD []).lookup nativeTarget).getD
          (.table []) = .table native ∧
        patched.lookup "target" = some (.table
          (Keyed.insert nativeTarget
            (.table (Keyed.insert "dependencies"
              (.table (Keyed.insert "telekio-host"
                (.table (hostDependency release)) dependencies)) native))
            ((retainedTargets root).getD [])))
    else
      (patched.lookup "target").bind Value.asTable = retainedTargets root

variable {release : Release} {manifest features : Value}
variable {source dependency : Role}

theorem setFeatures_eq_ok {root : Table}
    (set : setFeatures manifest features = .ok root) :
    ∃ original, manifest = .table original ∧
      root = Keyed.insert "features" features original := by
  unfold setFeatures at set
  split at set
  · rename_i original
    split at set
    · cases set
      exact ⟨original, rfl, rfl⟩
    · cases set
  · cases set

theorem lookup_removeTargets {root : Table} {key : String}
    (kept : key ∉ ["dev-dependencies", "bench", "bin", "example", "test"])
    (other : key ≠ "target") :
    (removeTargets root).lookup key = root.lookup key := by
  simp only [List.mem_cons, not_or] at kept
  obtain ⟨dev, bench, bin, example_, test, -⟩ := kept
  unfold removeTargets
  simp only [List.foldl]
  split <;>
    simp [Keyed.lookup_insert, Keyed.lookup_remove, dev, bench, bin,
      example_, test, other]

theorem lookup_removeTargets_eq_none {root : Table} {key : String}
    (gone : key ∈ ["bench", "bin", "dev-dependencies", "example", "test"]) :
    (removeTargets root).lookup key = none := by
  have other : key ≠ "target" := by
    rintro rfl
    simp at gone
  unfold removeTargets
  simp only [List.foldl]
  simp only [List.mem_cons, List.not_mem_nil, or_false] at gone
  split <;>
    rcases gone with rfl | rfl | rfl | rfl | rfl <;>
    simp [Keyed.lookup_insert, Keyed.lookup_remove]

theorem target_removeTargets {root : Table} :
    ((removeTargets root).lookup "target").bind Value.asTable =
      retainedTargets root := by
  have same : ((["bench", "bin", "example", "test"].foldl
      (fun root target => Keyed.remove target root)
      (Keyed.remove "dev-dependencies" root)).lookup "target") =
      root.lookup "target" := by
    simp [List.foldl, Keyed.lookup_remove]
  unfold removeTargets retainedTargets
  simp only [same]
  split
  · rename_i targets found
    rw [found, Keyed.lookup_insert_self]
    rfl
  · rename_i found
    rw [same, found]
    rfl

theorem entryTable_eq_ok {key message : String} {table found : Table} :
    entryTable key table message = .ok found ↔
      (table.lookup key).getD (.table []) = .table found := by
  rw [entryTable, okOr_eq_ok]
  constructor
  · exact Value.eq_table_of_asTable
  · intro entry
    rw [entry]
    rfl

theorem getD_asTable {found : Option Value} {table : Table}
    (entry : found.getD (.table []) = .table table) :
    (found.bind Value.asTable).getD [] = table := by
  cases found with
  | none =>
      cases entry
      rfl
  | some value =>
      cases entry
      rfl

theorem insertHost_eq_ok {root after : Table}
    (inserted : insertHost release root = .ok after) :
    ∃ targets native dependencies,
      (root.lookup "target").getD (.table []) = .table targets ∧
      (targets.lookup nativeTarget).getD (.table []) = .table native ∧
      after = Keyed.insert "target" (.table
        (Keyed.insert nativeTarget
          (.table (Keyed.insert "dependencies"
            (.table (Keyed.insert "telekio-host"
              (.table (hostDependency release)) dependencies)) native))
          targets)) root := by
  obtain ⟨targets, targetsAt, rest⟩ := bind_eq_ok.mp inserted
  obtain ⟨native, nativeAt, rest⟩ := bind_eq_ok.mp rest
  obtain ⟨dependencies, -, rest⟩ := bind_eq_ok.mp rest
  cases rest
  exact ⟨targets, native, dependencies, entryTable_eq_ok.mp targetsAt,
    entryTable_eq_ok.mp nativeAt, rfl⟩

theorem lookup_insertHostTo {before after : Table} {key : String}
    (inserted : insertHostTo release dependency before = .ok after)
    (other : key ≠ "target") : after.lookup key = before.lookup key := by
  unfold insertHostTo at inserted
  split at inserted
  · obtain ⟨targets, native, dependencies, -, -, rfl⟩ :=
      insertHost_eq_ok inserted
    exact Keyed.lookup_insert_of_ne other
  · cases inserted
    rfl

/-- The only manifests that the generator makes. -/
theorem patchManifest_eq_ok {patched : Value}
    (generated : patchManifest release manifest features source dependency =
      .ok patched) :
    ∃ root entries, manifest = .table root ∧ patched = .table entries ∧
      IsPatched release root features source dependency entries := by
  obtain ⟨withFeatures, set, rest⟩ := bind_eq_ok.mp generated
  obtain ⟨package, packageAt, rest⟩ := bind_eq_ok.mp rest
  obtain ⟨original, featuresAt, rest⟩ := bind_eq_ok.mp rest
  obtain ⟨forwarded, forwards, rest⟩ := bind_eq_ok.mp rest
  obtain ⟨dependencies, dependenciesAt, rest⟩ := bind_eq_ok.mp rest
  obtain ⟨after, inserted, rest⟩ := bind_eq_ok.mp rest
  cases rest
  obtain ⟨root, rfl, rfl⟩ := setFeatures_eq_ok set
  rw [section_eq_ok] at packageAt featuresAt dependenciesAt
  rw [lookup_removeTargets (by decide) (by decide),
    Keyed.lookup_insert_of_ne (by decide), Keyed.lookup_insert_self]
    at featuresAt
  cases featuresAt
  rw [Keyed.lookup_insert_of_ne (by decide),
    lookup_removeTargets (by decide) (by decide),
    Keyed.lookup_insert_of_ne (by decide),
    Keyed.lookup_insert_of_ne (by decide)] at dependenciesAt
  refine ⟨root, _, rfl, rfl, ?_⟩
  constructor
  case package =>
    refine ⟨package, ?_⟩
    rw [Keyed.lookup_insert_of_ne (by decide),
      lookup_insertHostTo inserted (by decide),
      Keyed.lookup_insert_of_ne (by decide),
      Keyed.lookup_insert_of_ne (by decide),
      lookup_removeTargets (by decide) (by decide),
      Keyed.lookup_insert_self]
  case features =>
    refine ⟨original, forwarded, rfl, ?_, forwards⟩
    rw [Keyed.lookup_insert_of_ne (by decide),
      lookup_insertHostTo inserted (by decide),
      Keyed.lookup_insert_of_ne (by decide), Keyed.lookup_insert_self]
  case dependencies =>
    refine ⟨dependencies, dependenciesAt, ?_⟩
    rw [Keyed.lookup_insert_of_ne (by decide),
      lookup_insertHostTo inserted (by decide), Keyed.lookup_insert_self]
  case buildDependencies => exact Keyed.lookup_insert_self
  case removed =>
    intro key gone
    have others : key ≠ "build-dependencies" ∧ key ≠ "target" ∧
        key ≠ "dependencies" ∧ key ≠ "features" := by
      refine ⟨?_, ?_, ?_, ?_⟩ <;> rintro rfl <;> simp at gone
    obtain ⟨build, target, dependency, feature⟩ := others
    rw [Keyed.lookup_insert_of_ne build,
      lookup_insertHostTo inserted target,
      Keyed.lookup_insert_of_ne dependency,
      Keyed.lookup_insert_of_ne feature, lookup_removeTargets_eq_none gone]
  case targets =>
    have before : ((removeTargets
          (Keyed.insert "package" (.table (patchPackage release package))
            (Keyed.insert "features" (.table original) root))).lookup
        "target").bind Value.asTable = retainedTargets root := by
      rw [target_removeTargets, retainedTargets,
        Keyed.lookup_insert_of_ne (by decide),
        Keyed.lookup_insert_of_ne (by decide), retainedTargets]
    rw [Keyed.lookup_insert_of_ne (by decide)]
    split
    · rename_i forHost
      rw [insertHostTo, if_pos forHost] at inserted
      obtain ⟨targets, native, dependencies, targetsAt, nativeAt, rfl⟩ :=
        insertHost_eq_ok inserted
      rw [Keyed.lookup_insert_of_ne (by decide),
        Keyed.lookup_insert_of_ne (by decide)] at targetsAt
      have same : (retainedTargets root).getD [] = targets := by
        rw [← before]
        exact getD_asTable targetsAt
      rw [same]
      exact ⟨native, dependencies, nativeAt, Keyed.lookup_insert_self⟩
    · rename_i forGuest
      rw [insertHostTo, if_neg forGuest] at inserted
      cases inserted
      rw [Keyed.lookup_insert_of_ne (by decide),
        Keyed.lookup_insert_of_ne (by decide), before]

/-! ## Well-formed manifests -/

theorem wellFormed_registryDependency (role : Option Role) :
    (registryDependency release role).WellFormed := by
  have version : Table.WellFormed
      [("version", Value.string ("=" ++ release.version))] := by
    refine .table (List.pairwise_singleton _ _) ?_
    intro entry member
    rw [List.mem_singleton.mp member]
    exact .string _
  cases role with
  | none => exact version
  | some role =>
      refine version.insert (.array ?_)
      intro value member
      rw [List.mem_singleton.mp member]
      exact .string _

theorem wellFormed_foldl_remove {table : Table} (fields : List String)
    (formed : table.WellFormed) :
    Table.WellFormed
      (fields.foldl (fun table field => Keyed.remove field table) table) := by
  induction fields generalizing table with
  | nil => exact formed
  | cons field rest ih => exact ih formed.remove

theorem wellFormed_patchPackage {package : Table}
    (formed : package.WellFormed) :
    (patchPackage release package).WellFormed :=
  wellFormed_foldl_remove _
    ((formed.insert (.string _)).insert (.string _))

theorem retainTarget_eq_some {target retained : String × Value}
    (kept : retainTarget target = some retained) :
    retained.1 = target.1 ∧
      (retained.2 = target.2 ∨ ∃ table, target.2 = .table table ∧
        retained.2 = .table (Keyed.remove "dev-dependencies" table)) := by
  obtain ⟨name, value⟩ := target
  cases value with
  | table table =>
      simp only [retainTarget] at kept
      split at kept
      · cases kept
      · cases kept
        exact ⟨rfl, Or.inr ⟨table, rfl, rfl⟩⟩
  | string | boolean | scalar | array =>
      cases kept
      exact ⟨rfl, Or.inl rfl⟩

theorem wellFormed_filterMap_retainTarget {targets : Table}
    (formed : targets.WellFormed) :
    Table.WellFormed (targets.filterMap retainTarget) := by
  refine formed.filterMap (fun kept => (retainTarget_eq_some kept).1) ?_
  intro target retained kept targetFormed
  rcases (retainTarget_eq_some kept).2 with same | ⟨table, before, after⟩
  · rwa [same]
  · rw [before] at targetFormed
    rw [after]
    exact Table.WellFormed.remove targetFormed

theorem wellFormed_removeTargets {root : Table} (formed : root.WellFormed) :
    (removeTargets root).WellFormed := by
  have stripped : Table.WellFormed (Keyed.remove "dev-dependencies" root) :=
    formed.remove
  have removed :=
    wellFormed_foldl_remove ["bench", "bin", "example", "test"] stripped
  unfold removeTargets
  dsimp only
  split
  · rename_i targets found
    obtain ⟨value, targetAt, asTable⟩ := Option.bind_eq_some_iff.mp found
    have targetFormed := removed.of_lookup targetAt
    rw [Value.eq_table_of_asTable asTable] at targetFormed
    exact removed.insert (wellFormed_filterMap_retainTarget targetFormed)
  · exact removed

theorem forwardFeature_eq_ok {feature forwarded : String × Value}
    (forwards : forwardFeature feature = .ok forwarded) :
    forwarded.1 = feature.1 ∧
      if feature.1 = "default" then
        forwarded.2 = feature.2
      else
        ∃ values, feature.2 = .array values ∧ forwarded.2 =
          .array (values ++ [.string (hostFeature feature.1)]) := by
  obtain ⟨name, value⟩ := feature
  simp only [forwardFeature] at forwards
  split at forwards
  · rename_i default
    cases forwards
    exact ⟨rfl, by rw [if_pos default]⟩
  · rename_i other
    obtain ⟨values, array, rest⟩ := bind_eq_ok.mp forwards
    cases rest
    refine ⟨rfl, ?_⟩
    rw [if_neg other]
    refine ⟨values, ?_, rfl⟩
    cases value <;> simp_all [okOr, Value.asArray]

/-- The same names, and each feature is forwarded for itself. -/
theorem forwardFeatures_eq_ok {features forwarded : Table}
    (forwards : forwardFeatures features = .ok forwarded) :
    forwarded.map Prod.fst = features.map Prod.fst ∧
      ∀ entry ∈ forwarded, ∃ feature ∈ features,
        forwardFeature feature = .ok entry := by
  unfold forwardFeatures at forwards
  induction features generalizing forwarded with
  | nil =>
      cases forwards
      exact ⟨rfl, by simp⟩
  | cons feature rest ih =>
      rw [List.mapM_cons] at forwards
      obtain ⟨first, firstForwards, forwards⟩ := bind_eq_ok.mp forwards
      obtain ⟨others, othersForward, forwards⟩ := bind_eq_ok.mp forwards
      cases forwards
      obtain ⟨names, origins⟩ := ih othersForward
      refine ⟨?_, ?_⟩
      · rw [List.map_cons, List.map_cons, names,
          (forwardFeature_eq_ok firstForwards).1]
      · intro entry member
        rcases List.mem_cons.mp member with rfl | later
        · exact ⟨feature, List.mem_cons_self, firstForwards⟩
        · obtain ⟨origin, among, forwards⟩ := origins entry later
          exact ⟨origin, List.mem_cons_of_mem _ among, forwards⟩

theorem wellFormed_forwardFeature {feature forwarded : String × Value}
    (forwards : forwardFeature feature = .ok forwarded)
    (formed : feature.2.WellFormed) : forwarded.2.WellFormed := by
  have change := (forwardFeature_eq_ok forwards).2
  split at change
  · rwa [change]
  · obtain ⟨values, before, after⟩ := change
    rw [before] at formed
    rw [after]
    cases formed with
    | array inner =>
        refine .array fun value member => ?_
        rcases List.mem_append.mp member with old | added
        · exact inner value old
        · rw [List.mem_singleton.mp added]
          exact .string _

theorem wellFormed_forwardTo {features forwarded : Table}
    (forwards : forwardTo dependency features = .ok forwarded)
    (formed : features.WellFormed) : forwarded.WellFormed := by
  unfold forwardTo at forwards
  split at forwards
  · obtain ⟨names, origins⟩ := forwardFeatures_eq_ok forwards
    have sorted : Keyed.Sorted forwarded := by
      have before : (features.map Prod.fst).Pairwise (· < ·) :=
        List.pairwise_map.mpr formed.sorted
      rw [← names] at before
      exact List.pairwise_map.mp before
    refine .table sorted fun entry member => ?_
    obtain ⟨feature, original, featureForwards⟩ := origins entry member
    exact wellFormed_forwardFeature featureForwards
      (formed.of_lookup (Keyed.lookup_of_mem formed.sorted original))
  · cases forwards
    exact formed

theorem wellFormed_getD {table : Table} {key : String} {found : Table}
    (formed : table.WellFormed)
    (entry : (table.lookup key).getD (.table []) = .table found) :
    found.WellFormed := by
  cases present : table.lookup key with
  | none =>
      rw [present] at entry
      cases entry
      exact Table.wellFormed_nil
  | some value =>
      have valueFormed := formed.of_lookup present
      rw [present] at entry
      cases entry
      exact valueFormed

theorem wellFormed_insertHostTo {before after : Table}
    (inserted : insertHostTo release dependency before = .ok after)
    (formed : before.WellFormed) : after.WellFormed := by
  unfold insertHostTo at inserted
  split at inserted
  · obtain ⟨targets, targetsAt, rest⟩ := bind_eq_ok.mp inserted
    obtain ⟨native, nativeAt, rest⟩ := bind_eq_ok.mp rest
    obtain ⟨dependencies, dependenciesAt, rest⟩ := bind_eq_ok.mp rest
    cases rest
    have targetsFormed :=
      wellFormed_getD formed (entryTable_eq_ok.mp targetsAt)
    have nativeFormed :=
      wellFormed_getD targetsFormed (entryTable_eq_ok.mp nativeAt)
    have dependenciesFormed :=
      wellFormed_getD nativeFormed (entryTable_eq_ok.mp dependenciesAt)
    have hostFormed : (hostDependency release).WellFormed :=
      (wellFormed_registryDependency none).insert (.boolean _)
    exact formed.insert (targetsFormed.insert (nativeFormed.insert
      (dependenciesFormed.insert hostFormed)))
  · cases inserted
    exact formed

theorem wellFormed_patchManifest {patched : Value}
    (generated : patchManifest release manifest features source dependency =
      .ok patched)
    (manifestFormed : manifest.WellFormed)
    (featuresFormed : features.WellFormed) : patched.WellFormed := by
  obtain ⟨withFeatures, set, rest⟩ := bind_eq_ok.mp generated
  obtain ⟨package, packageAt, rest⟩ := bind_eq_ok.mp rest
  obtain ⟨original, featuresAt, rest⟩ := bind_eq_ok.mp rest
  obtain ⟨forwarded, forwards, rest⟩ := bind_eq_ok.mp rest
  obtain ⟨dependencies, dependenciesAt, rest⟩ := bind_eq_ok.mp rest
  obtain ⟨after, inserted, rest⟩ := bind_eq_ok.mp rest
  cases rest
  obtain ⟨root, rfl, rfl⟩ := setFeatures_eq_ok set
  have rootFormed : Table.WellFormed
      (Keyed.insert "features" features root) :=
    Table.WellFormed.insert manifestFormed featuresFormed
  have packageFormed :=
    rootFormed.of_lookup (section_eq_ok.mp packageAt)
  have packageInserted : Table.WellFormed
      (Keyed.insert "package" (.table (patchPackage release package))
        (Keyed.insert "features" features root)) :=
    rootFormed.insert (wellFormed_patchPackage packageFormed)
  have targetsFormed := wellFormed_removeTargets packageInserted
  have originalFormed :=
    targetsFormed.of_lookup (section_eq_ok.mp featuresAt)
  have featuresFormed : Table.WellFormed
      (Keyed.insert "features" (.table forwarded) (removeTargets
        (Keyed.insert "package" (.table (patchPackage release package))
          (Keyed.insert "features" features root)))) :=
    targetsFormed.insert (wellFormed_forwardTo forwards originalFormed)
  have dependenciesFormed : Table.WellFormed dependencies :=
    featuresFormed.of_lookup (section_eq_ok.mp dependenciesAt)
  have abiFormed : (patchDependencies release source dependencies).WellFormed :=
    (dependenciesFormed.insert (wellFormed_registryDependency _)).remove
  have hostFormed :=
    wellFormed_insertHostTo inserted (featuresFormed.insert abiFormed)
  refine hostFormed.insert (.table (List.pairwise_singleton _ _) ?_)
  intro entry member
  rw [List.mem_singleton.mp member]
  exact wellFormed_registryDependency none

end Telekio.Patching
