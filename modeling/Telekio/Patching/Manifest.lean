import Telekio.Disk.Effects
import Telekio.Text.Search
import Telekio.Toml.Value

/-!
# The manifest of a generated patch

What `write_patch` of `telekio-build/src/package.rs` makes of the manifest of
Tokio, and what `patch_current` looks for in the manifest of a patch.
-/

namespace Telekio.Patching

open Telekio.Disk
open Telekio.Toml

inductive Role where
  | host
  | guest
deriving DecidableEq, Repr

def Role.name : Role → String
  | host => "host"
  | guest => "guest"

/-- `CARGO_PKG_VERSION` and `CARGO_PKG_RUST_VERSION`. -/
structure Release where
  version : String
  rustVersion : String

def okOr {α : Type} (found : Option α) (message : String) : Except Error α :=
  match found with
  | some value => .ok value
  | none => .error (.message message)

def nativeTarget : String :=
  "cfg(all(any(unix, windows), not(loom)))"

def hostFeature (name : String) : String :=
  "telekio-host/" ++ name

variable (release : Release)

def registryDependency (role : Option Role) : Table :=
  let dependency := [("version", Value.string ("=" ++ release.version))]
  match role with
  | some role =>
      Keyed.insert "features" (.array [.string role.name]) dependency
  | none => dependency

/-- `manifest["features"] = …`, which panics where there are none. -/
def setFeatures (manifest features : Value) : Except Error Table :=
  match manifest with
  | .table root =>
      if (root.lookup "features").isSome then
        .ok (Keyed.insert "features" features root)
      else
        .error .panicked
  | _ => .error .panicked

def patchPackage (package : Table) : Table :=
  let package := Keyed.insert "build" (.string "build.rs") package
  let package :=
    Keyed.insert "rust-version" (.string release.rustVersion) package
  ["authors", "categories", "homepage", "keywords", "metadata", "readme",
    "repository"].foldl (fun package field => Keyed.remove field package)
    package

def retainTarget : String × Value → Option (String × Value)
  | (name, .table target) =>
      let target := Keyed.remove "dev-dependencies" target
      if target.isEmpty then none else some (name, .table target)
  | target => some target

def removeTargets (root : Table) : Table :=
  let root := Keyed.remove "dev-dependencies" root
  let root :=
    ["bench", "bin", "example", "test"].foldl
      (fun root target => Keyed.remove target root) root
  match (root.lookup "target").bind Value.asTable with
  | some targets =>
      Keyed.insert "target" (.table (targets.filterMap retainTarget)) root
  | none => root

def forwardFeature : String × Value → Except Error (String × Value)
  | (name, values) => do
      if name = "default" then
        return (name, values)
      let values ← okOr values.asArray "Tokio feature is not an array"
      return (name, .array (values ++ [.string (hostFeature name)]))

def forwardFeatures (features : Table) : Except Error Table :=
  features.mapM forwardFeature

def forwardTo (dependency : Role) (features : Table) :
    Except Error Table :=
  if dependency = .host then forwardFeatures features else .ok features

/-- `entry(key).or_insert_with(…).as_table_mut()`. -/
def entryTable (key : String) (table : Table) (message : String) :
    Except Error Table :=
  okOr ((table.lookup key).getD (.table [])).asTable message

def hostDependency : Table :=
  Keyed.insert "default-features" (.boolean false)
    (registryDependency release none)

def insertHost (root : Table) : Except Error Table := do
  let targets ← entryTable "target" root "Tokio targets are not a table"
  let native ← entryTable nativeTarget targets
    "Tokio native target is not a table"
  let dependencies ← entryTable "dependencies" native
    "Tokio native dependencies are not a table"
  let dependencies :=
    Keyed.insert "telekio-host" (.table (hostDependency release))
      dependencies
  let native := Keyed.insert "dependencies" (.table dependencies) native
  let targets := Keyed.insert nativeTarget (.table native) targets
  return Keyed.insert "target" (.table targets) root

def insertHostTo (dependency : Role) (root : Table) : Except Error Table :=
  if dependency = .host then insertHost release root else .ok root

def patchDependencies (source : Role) (dependencies : Table) : Table :=
  Keyed.remove "telekio-host"
    (Keyed.insert "telekio-abi"
      (.table (registryDependency release (some source))) dependencies)

/-- The table under a key of the manifest. -/
def section_ (key : String) (root : Table) (message : String) :
    Except Error Table :=
  okOr ((root.lookup key).bind Value.asTable) message

def patchManifest (manifest features : Value) (source dependency : Role) :
    Except Error Value := do
  let root ← setFeatures manifest features
  let package ←
    section_ "package" root "Tokio manifest has no package table"
  let root :=
    Keyed.insert "package" (.table (patchPackage release package)) root
  let root := removeTargets root
  let features ← section_ "features" root "Tokio manifest has no features"
  let features ← forwardTo dependency features
  let root := Keyed.insert "features" (.table features) root
  let dependencies ←
    section_ "dependencies" root "Tokio manifest has no dependencies"
  let root :=
    Keyed.insert "dependencies"
      (.table (patchDependencies release source dependencies)) root
  let root ← insertHostTo release dependency root
  return .table
    (Keyed.insert "build-dependencies"
      (.table [("telekio-build", .table (registryDependency release none))])
      root)

/-- The host dependency of the native target. -/
def hostOf (manifest : Value) : Option Value := do
  let target ← (← manifest.get "target").get nativeTarget
  (← target.get "dependencies").get "telekio-host"

def featureForwarded (dependency : Role) (feature : String × Value) : Bool :=
  feature.1 = "default" ||
    feature.2.asArray.any fun values =>
      Value.containsString values (hostFeature feature.1) ==
        decide (dependency = .host)

def tableOf (key : String) (manifest : Value) : Option Table :=
  (manifest.get key).bind Value.asTable

def buildVersionOf (manifest : Value) : Option String := do
  let dependency ← (← manifest.get "build-dependencies").get "telekio-build"
  (← dependency.get "version").asStr

def rustVersionOf (manifest : Value) : Option String := do
  (← (← manifest.get "package").get "rust-version").asStr

def abiFeaturesOf (dependencies : Table) : Option (List Value) := do
  (← (← dependencies.lookup "telekio-abi").get "features").asArray

def nativeCfg : String :=
  "rustc-cfg=telekio_host"

def hostExport : String :=
  "#[doc(inline)]\npub use telekio_host::*;"

/-- The texts are those of the manifest, `build.rs` and `src/lib.rs`, after
the manifest is parsed. -/
def manifestCurrent (manifest : Value) (build lib : String)
    (source dependency : Role) : Except Error Bool := do
  let dependencies ← okOr (tableOf "dependencies" manifest)
    "generated Tokio manifest has no dependencies"
  let features := tableOf "features" manifest
  let package := tableOf "package" manifest
  let targets := tableOf "target" manifest
  let host := hostOf manifest
  return buildVersionOf manifest = some ("=" ++ release.version) &&
    rustVersionOf manifest = some release.rustVersion &&
    features.any (fun features =>
      (features.lookup "telekio-test").isNone) &&
    (abiFeaturesOf dependencies).any (fun features =>
      Value.containsString features source.name) &&
    (dependencies.lookup "telekio-host").isNone &&
    Text.contains build nativeCfg == decide (source = .host) &&
    Text.contains lib hostExport == decide (source = .host) &&
    host.isSome == decide (dependency = .host) &&
    host.all (fun host =>
      (host.get "default-features").bind Value.asBool = some false) &&
    features.any (fun features =>
      features.all (featureForwarded dependency)) &&
    (dependencies ++ (tableOf "build-dependencies" manifest).getD []).all
      (fun dependency => (dependency.2.get "path").isNone) &&
    ["bench", "bin", "dev-dependencies", "example", "test"].all
      (fun key => (manifest.get key).isNone) &&
    package.any (fun package => (package.lookup "metadata").isNone) &&
    targets.all (fun targets => targets.all fun target =>
      target.2.asTable.all fun target =>
        (target.lookup "dev-dependencies").isNone)

theorem bind_eq_ok {ε α β : Type} {first : Except ε α}
    {next : α → Except ε β} {result : β} :
    first >>= next = .ok result ↔
      ∃ value, first = .ok value ∧ next value = .ok result := by
  cases first <;> simp [bind, Except.bind]

theorem ok_bind {ε α β : Type} {value : α} {next : α → Except ε β} :
    (Except.ok value >>= next) = next value :=
  rfl

theorem okOr_eq_ok {α : Type} {found : Option α} {message : String}
    {value : α} : okOr found message = .ok value ↔ found = some value := by
  cases found <;> simp [okOr]

theorem section_eq_ok {key message : String} {root found : Table} :
    section_ key root message = .ok found ↔
      root.lookup key = some (.table found) := by
  rw [section_, okOr_eq_ok, Option.bind_eq_some_iff]
  constructor
  · rintro ⟨value, at_, asTable⟩
    rw [at_, Value.eq_table_of_asTable asTable]
  · intro at_
    exact ⟨_, at_, rfl⟩

end Telekio.Patching
