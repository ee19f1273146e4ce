import Telekio.Patching.Generated

/-!
# Checking generated manifests

The checker takes a generated manifest for one of its own roles, and for no
others.
-/

namespace Telekio.Patching

open Telekio.Toml

/-- What is asked of a manifest of Tokio and of its features. -/
structure Forwardable (root features : Table) : Prop where
  arrays : ∀ feature ∈ features, ∃ values, feature.2 = .array values
  noTest : features.lookup "telekio-test" = none
  unforwarded : ∀ feature ∈ features, ∀ values,
    feature.2 = .array values →
    Value.containsString values (hostFeature feature.1) = false
  noPath : ∀ dependencies,
    root.lookup "dependencies" = some (.table dependencies) →
    ∀ dependency ∈ dependencies, dependency.2.get "path" = none

section Entries

variable {release : Release} {root features entries : Table}
variable {source dependency other : Role}

theorem tableOf_eq_some {key : String} {found : Table}
    (entry : entries.lookup key = some (.table found)) :
    tableOf key (.table entries) = some found := by
  simp [tableOf, entry]

theorem lookup_registryDependency_version (role : Option Role) :
    (registryDependency release role).lookup "version" =
      some (.string ("=" ++ release.version)) := by
  cases role with
  | none => rfl
  | some role => exact Keyed.lookup_insert_of_ne (by decide)

theorem lookup_registryDependency_path (role : Option Role) :
    (registryDependency release role).lookup "path" = none := by
  cases role with
  | none => rfl
  | some role => exact Keyed.lookup_insert_of_ne (by decide)

theorem lookup_patchPackage_rustVersion {package : Table} :
    (patchPackage release package).lookup "rust-version" =
      some (.string release.rustVersion) := by
  simp [patchPackage, Keyed.lookup_remove]

theorem lookup_patchPackage_metadata {package : Table} :
    (patchPackage release package).lookup "metadata" = none := by
  simp [patchPackage, Keyed.lookup_remove]

/-- The feature of `telekio-abi` is that of the source. -/
theorem abiFeaturesOf_patchDependencies {dependencies : Table} :
    abiFeaturesOf (patchDependencies release source dependencies) =
      some [.string source.name] := by
  simp [abiFeaturesOf, patchDependencies, Keyed.lookup_remove,
    registryDependency]

theorem name_inj {first second : Role} :
    first.name = second.name ↔ first = second := by
  cases first <;> cases second <;> simp [Role.name]

theorem lookup_patchDependencies_host {dependencies : Table} :
    (patchDependencies release source dependencies).lookup "telekio-host" =
      none :=
  Keyed.lookup_remove_self

theorem noPath_patchDependencies {dependencies : Table}
    (noPath : ∀ dependency ∈ dependencies, dependency.2.get "path" = none) :
    ∀ dependency ∈ patchDependencies release source dependencies,
      dependency.2.get "path" = none := by
  intro dependency member
  rcases Keyed.mem_insert (Keyed.mem_remove member).1 with rfl | old
  · exact @lookup_registryDependency_path release (some source)
  · exact noPath dependency old

theorem noDev_of_retained {targets : Table} {target : String × Value}
    (member : target ∈ targets.filterMap retainTarget) :
    ∀ table, target.2 = .table table →
      table.lookup "dev-dependencies" = none := by
  obtain ⟨original, -, kept⟩ := List.mem_filterMap.mp member
  obtain ⟨name, value⟩ := original
  intro table isTable
  cases value with
  | table before =>
      simp only [retainTarget] at kept
      split at kept
      · cases kept
      · cases kept
        cases isTable
        exact Keyed.lookup_remove_self
  | string | boolean | scalar | array =>
      cases kept
      cases isTable

/-- A target that is kept has the dependencies that it had. -/
theorem get_of_retained {targets : Table} {name : String} {value : Value}
    (sorted : Keyed.Sorted targets)
    (found : (targets.filterMap retainTarget).lookup name = some value) :
    ∃ original, targets.lookup name = some original ∧
      value.get "dependencies" = original.get "dependencies" := by
  obtain ⟨original, among, kept⟩ :=
    List.mem_filterMap.mp (Keyed.mem_of_lookup found)
  obtain ⟨sameName, change⟩ := retainTarget_eq_some kept
  obtain ⟨originalName, originalValue⟩ := original
  dsimp only at sameName change
  subst sameName
  refine ⟨originalValue, Keyed.lookup_of_mem sorted among, ?_⟩
  rcases change with same | ⟨table, before, after⟩
  · rw [same]
  · rw [before, after, Value.get_table, Value.get_table,
      Keyed.lookup_remove, if_neg (by decide)]

theorem retainedTargets_eq_some {targets : Table}
    (retained : retainedTargets root = some targets) :
    ∃ original, root.lookup "target" = some (.table original) ∧
      targets = original.filterMap retainTarget := by
  obtain ⟨original, isTable, rfl⟩ := Option.map_eq_some_iff.mp retained
  obtain ⟨value, entry, asTable⟩ := Option.bind_eq_some_iff.mp isTable
  rw [Value.eq_table_of_asTable asTable] at entry
  exact ⟨original, entry, rfl⟩

theorem hostOf_table (entries : Table) :
    hostOf (.table entries) =
      (((entries.lookup "target").bind Value.asTable).bind
        (List.lookup nativeTarget)).bind fun target =>
          (target.get "dependencies").bind fun dependencies =>
            dependencies.get "telekio-host" := by
  unfold hostOf
  rw [Value.get_table]
  cases entries.lookup "target" with
  | none => rfl
  | some target => rfl

/-- The targets that are kept have no dependency on the host either. -/
theorem hostOf_retained (formed : root.WellFormed)
    (noHost : hostOf (.table root) = none)
    (targets : (entries.lookup "target").bind Value.asTable =
      retainedTargets root) : hostOf (.table entries) = none := by
  rw [hostOf_table] at noHost ⊢
  rw [targets]
  cases kept : retainedTargets root with
  | none => rfl
  | some found =>
      obtain ⟨original, entry, rfl⟩ := retainedTargets_eq_some kept
      rw [Option.bind_some]
      cases native : (original.filterMap retainTarget).lookup nativeTarget with
      | none => rfl
      | some target =>
          have originalFormed : Table.WellFormed original :=
            formed.of_lookup entry
          obtain ⟨before, beforeAt, same⟩ :=
            get_of_retained originalFormed.sorted native
          rw [entry, Option.bind_some, Value.asTable_table,
            Option.bind_some, beforeAt] at noHost
          rw [Option.bind_some, same]
          exact noHost

/-- Whether there is a host dependency, and what it is. -/
theorem hostOf_patched {features : Value} (formed : root.WellFormed)
    (noHost : hostOf (.table root) = none)
    (patched : IsPatched release root features source dependency entries) :
    hostOf (.table entries) =
      if dependency = .host then some (.table (hostDependency release))
      else none := by
  have targets := patched.targets
  split at targets
  · rename_i forHost
    obtain ⟨native, dependencies, -, targetAt⟩ := targets
    rw [if_pos forHost, hostOf_table, targetAt]
    simp
  · rename_i forGuest
    rw [if_neg forGuest]
    exact hostOf_retained formed noHost targets

theorem noDev_native {native : Table}
    (retained : ∀ targets, retainedTargets root = some targets →
      ∀ target ∈ targets, ∀ table, target.2 = .table table →
        table.lookup "dev-dependencies" = none)
    (nativeAt : (((retainedTargets root).getD []).lookup nativeTarget).getD
      (.table []) = .table native) :
    native.lookup "dev-dependencies" = none := by
  cases entry : ((retainedTargets root).getD []).lookup nativeTarget with
  | none =>
      rw [entry] at nativeAt
      cases nativeAt
      rfl
  | some value =>
      rw [entry] at nativeAt
      cases nativeAt
      cases kept : retainedTargets root with
      | none =>
          rw [kept] at entry
          cases entry
      | some targets =>
          rw [kept] at entry
          exact retained targets kept _ (Keyed.mem_of_lookup entry) native rfl

theorem noDev_patched {features : Value}
    (patched : IsPatched release root features source dependency entries) :
    (tableOf "target" (.table entries)).all (fun targets =>
      targets.all fun target => target.2.asTable.all fun target =>
        (target.lookup "dev-dependencies").isNone) = true := by
  have retained : ∀ targets, retainedTargets root = some targets →
      ∀ target ∈ targets, ∀ table, target.2 = .table table →
        table.lookup "dev-dependencies" = none := by
    intro targets kept target member
    obtain ⟨original, -, rfl⟩ := retainedTargets_eq_some kept
    exact noDev_of_retained member
  have all : ∀ targets, tableOf "target" (.table entries) = some targets →
      ∀ target ∈ targets, ∀ table, target.2 = .table table →
        table.lookup "dev-dependencies" = none := by
    intro targets found target member table isTable
    have targetsOf := patched.targets
    split at targetsOf
    · obtain ⟨native, dependencies, nativeAt, targetAt⟩ := targetsOf
      rw [tableOf_eq_some targetAt] at found
      cases found
      rcases Keyed.mem_insert member with rfl | old
      · cases isTable
        rw [Keyed.lookup_insert_of_ne (by decide)]
        exact noDev_native retained nativeAt
      · cases kept : retainedTargets root with
        | none =>
            rw [kept] at old
            cases old
        | some targets =>
            rw [kept] at old
            exact retained targets kept target old table isTable
    · rw [tableOf, Value.get_table, targetsOf] at found
      exact retained targets found target member table isTable
  rw [Option.all_eq_true]
  intro targets found
  rw [List.all_eq_true]
  intro target member
  rw [Option.all_eq_true]
  intro table asTable
  rw [Option.isNone_iff_eq_none]
  exact all targets found target member table
    (Value.eq_table_of_asTable asTable)

/-! ## Features -/

theorem names_forwardTo {forwarded : Table}
    (forwards : forwardTo dependency features = .ok forwarded) :
    forwarded.map Prod.fst = features.map Prod.fst := by
  unfold forwardTo at forwards
  split at forwards
  · exact (forwardFeatures_eq_ok forwards).1
  · cases forwards
    rfl

theorem lookup_forwardTo_eq_none {forwarded : Table} {name : String}
    (forwards : forwardTo dependency features = .ok forwarded)
    (absent : features.lookup name = none) :
    forwarded.lookup name = none := by
  rw [Keyed.lookup_eq_none_iff] at absent ⊢
  rwa [names_forwardTo forwards]

theorem featureForwarded_forwardTo {forwarded : Table}
    (forwards : forwardTo dependency features = .ok forwarded)
    (arrays : ∀ feature ∈ features, ∃ values, feature.2 = .array values)
    (unforwarded : ∀ feature ∈ features, ∀ values,
      feature.2 = .array values →
      Value.containsString values (hostFeature feature.1) = false) :
    forwarded.all (featureForwarded dependency) = true := by
  rw [List.all_eq_true]
  intro entry member
  unfold forwardTo at forwards
  split at forwards
  · rename_i forHost
    obtain ⟨feature, -, featureForwards⟩ :=
      (forwardFeatures_eq_ok forwards).2 entry member
    obtain ⟨name, change⟩ := forwardFeature_eq_ok featureForwards
    by_cases default : feature.1 = "default"
    · simp [featureForwarded, name, default]
    · rw [if_neg default] at change
      obtain ⟨values, -, after⟩ := change
      simp [featureForwarded, name, after, Value.containsString_append,
        forHost]
  · rename_i forGuest
    cases forwards
    obtain ⟨values, array⟩ := arrays entry member
    simp [featureForwarded, array, unforwarded entry member values array,
      forGuest]

/-- The checker wants a host dependency for the host alone. -/
theorem host_of_manifestCurrent {manifest : Value} {build lib : String}
    (current : manifestCurrent release manifest build lib source dependency =
      .ok true) :
    (hostOf manifest).isSome = decide (dependency = .host) := by
  obtain ⟨dependencies, -, checked⟩ := bind_eq_ok.mp current
  simp only [pure, Except.pure, Except.ok.injEq, Bool.and_eq_true,
    beq_iff_eq] at checked
  tauto

/-- The same of the export of the host, for the source. -/
theorem export_of_manifestCurrent {manifest : Value} {build lib : String}
    (current : manifestCurrent release manifest build lib source dependency =
      .ok true) :
    Text.contains lib hostExport = decide (source = .host) := by
  obtain ⟨dependencies, -, checked⟩ := bind_eq_ok.mp current
  simp only [pure, Except.pure, Except.ok.injEq, Bool.and_eq_true,
    beq_iff_eq] at checked
  tauto

theorem containsString_name :
    Value.containsString [.string source.name] other.name =
      decide (other = source) := by
  simp [Value.containsString, name_inj, eq_comm]

theorem decide_host_eq :
    (decide (source = .host) == decide (other = .host)) =
      decide (other = source) := by
  cases source <;> cases other <;> rfl

variable {original : Table} {otherDependency : Role} {build lib : String}

/-- The checker takes a generated manifest, with texts that are generated for
the same source, for the roles that it is generated for and for no others. -/
theorem manifestCurrent_patched (formed : root.WellFormed)
    (forwardable : Forwardable root original)
    (noHost : hostOf (.table root) = none)
    (patched : IsPatched release root (.table original) source dependency
      entries)
    (buildFor : Text.contains build nativeCfg = decide (source = .host))
    (libFor : Text.contains lib hostExport = decide (source = .host)) :
    manifestCurrent release (.table entries) build lib other
        otherDependency =
      .ok (decide (other = source ∧ otherDependency = dependency)) := by
  obtain ⟨package, packageAt⟩ := patched.package
  obtain ⟨_, forwarded, same, featuresAt, forwards⟩ := patched.features
  cases same
  obtain ⟨dependencies, sourceAt, dependenciesAt⟩ := patched.dependencies
  have buildAt := patched.buildDependencies
  have noTest := lookup_forwardTo_eq_none forwards forwardable.noTest
  have forwardsAll := featureForwarded_forwardTo forwards
    forwardable.arrays forwardable.unforwarded
  have noDev := noDev_patched patched
  have host := hostOf_patched formed noHost patched
  have noPath : ((patchDependencies release source dependencies) ++
      [("telekio-build", Value.table (registryDependency release none))]).all
      (fun dependency => (dependency.2.get "path").isNone) = true := by
    rw [List.all_eq_true]
    intro dependency member
    rw [Option.isNone_iff_eq_none]
    rcases List.mem_append.mp member with listed | build
    · exact noPath_patchDependencies
        (forwardable.noPath dependencies sourceAt) dependency listed
    · rw [List.mem_singleton.mp build]
      exact @lookup_registryDependency_path release none
  have removed : ["bench", "bin", "dev-dependencies", "example", "test"].all
      (fun key => ((Value.table entries).get key).isNone) = true := by
    rw [List.all_eq_true]
    intro key member
    rw [Value.get_table, patched.removed key member]
    rfl
  have version : buildVersionOf (.table entries) =
      some ("=" ++ release.version) := by
    simp [buildVersionOf, buildAt, lookup_registryDependency_version]
  have rustVersion : rustVersionOf (.table entries) =
      some release.rustVersion := by
    simp [rustVersionOf, packageAt, lookup_patchPackage_rustVersion]
  simp only [manifestCurrent, tableOf_eq_some dependenciesAt,
    tableOf_eq_some featuresAt, tableOf_eq_some packageAt,
    tableOf_eq_some buildAt, version, rustVersion, noDev, noPath, removed,
    host, buildFor, libFor, decide_host_eq, okOr, ok_bind,
    abiFeaturesOf_patchDependencies, lookup_patchDependencies_host,
    lookup_patchPackage_metadata, noTest, Option.any_some,
    containsString_name, Option.getD_some]
  by_cases same : otherDependency = dependency
  · subst same
    rw [forwardsAll]
    cases otherDependency <;>
      simp [hostDependency, pure, Except.pure]
  · -- one of the two has a host dependency
    have differs : ((if dependency = .host then
          some (Value.table (hostDependency release)) else none).isSome ==
        decide (otherDependency = .host)) = false := by
      cases dependency <;> cases otherDependency <;> simp_all
    simp [differs, same, pure, Except.pure]

end Entries

end Telekio.Patching
