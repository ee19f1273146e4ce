import Telekio.Graph.Worklist
import Telekio.Json.Value

/-!
# Packages that are reachable

`reachable_packages` of `telekio/src/project.rs`, over the metadata that Cargo
prints.
-/

namespace Telekio.Packages

/-- The first node of a package. -/
def nodeOf (nodes : List Json) (id : String) : Option Json :=
  nodes.find? fun node => (node.index "id").asStr = some id

/-- What the loop appends for a package: nothing, if it has no node or the
node has no list of dependencies. -/
def dependenciesOf (nodes : List Json) (id : String) : List String :=
  match nodeOf nodes id with
  | some node =>
      match (node.index "dependencies").asArray with
      | some dependencies => dependencies.filterMap Json.asStr
      | none => []
  | none => []

/-- The fuel bounds the turns of the loop. -/
def reachablePackages (fuel : Nat) (metadata : Json)
    (selected : List String) : Except String (Option (List String)) :=
  match ((metadata.index "resolve").index "nodes").asArray with
  | some nodes => .ok (Worklist.run (dependenciesOf nodes) fuel selected 0)
  | none => .error "Cargo metadata has no resolve nodes"

/-- The first of the nodes with an id. -/
def FirstNode (nodes : List Json) (id : String) (node : Json) : Prop :=
  (node.index "id").asStr = some id ∧
    ∃ earlier later, nodes = earlier ++ node :: later ∧
      ∀ other ∈ earlier, (other.index "id").asStr ≠ some id

/-- A package depends on another in a resolve graph. -/
def DependsOn (nodes : List Json) (id dependency : String) : Prop :=
  ∃ node dependencies, FirstNode nodes id node ∧
    (node.index "dependencies").asArray = some dependencies ∧
    .string dependency ∈ dependencies

variable {nodes : List Json} {id dependency : String}

theorem nodeOf_eq_some_iff {node : Json} :
    nodeOf nodes id = some node ↔ FirstNode nodes id node := by
  simp [nodeOf, FirstNode, List.find?_eq_some_iff_append]

theorem mem_dependenciesOf :
    dependency ∈ dependenciesOf nodes id ↔ DependsOn nodes id dependency := by
  unfold dependenciesOf DependsOn
  simp only [← nodeOf_eq_some_iff]
  cases nodeOf nodes id with
  | none => simp
  | some node =>
      dsimp only
      cases found : (node.index "dependencies").asArray with
      | none => simp [found]
      | some dependencies =>
          simp only [List.mem_filterMap, Json.asStr_eq_some]
          constructor
          · rintro ⟨_, member, rfl⟩
            exact ⟨node, dependencies, rfl, found, member⟩
          · rintro ⟨_, _, same, listed, member⟩
            cases same
            rw [found] at listed
            cases listed
            exact ⟨_, member, rfl⟩

/-- Every package that a resolve graph names as a dependency. -/
def allDependencies (nodes : List Json) : List String :=
  nodes.flatMap fun node =>
    (((node.index "dependencies").asArray).getD []).filterMap Json.asStr

theorem mem_allDependencies (depends : DependsOn nodes id dependency) :
    dependency ∈ allDependencies nodes := by
  obtain ⟨node, dependencies, found, listed, member⟩ := depends
  obtain ⟨-, earlier, later, rfl, -⟩ := found
  refine List.mem_flatMap.mpr ⟨node, by simp, ?_⟩
  rw [listed]
  exact List.mem_filterMap.mpr ⟨_, member, rfl⟩

theorem closed_allDependencies (selected : List String) :
    Worklist.Closed (dependenciesOf nodes) selected
      (selected ++ allDependencies nodes) where
  begins := List.subset_append_left _ _
  closed := fun _ _ _ depends => List.mem_append_right _
    (mem_allDependencies (mem_dependenciesOf.mp depends))

/-- The loop ends, and returns the packages that the selected ones reach over
dependencies, each once, beginning with the selected ones. -/
theorem reachablePackages_eq_closure {metadata : Json}
    {selected : List String}
    (resolved : ((metadata.index "resolve").index "nodes").asArray =
      some nodes) (distinct : selected.Nodup) :
    ∃ result, (∃ enough, ∀ fuel, enough < fuel →
        reachablePackages fuel metadata selected = .ok (some result)) ∧
      result.Nodup ∧ selected <+: result ∧
      ∀ id, id ∈ result ↔ ∃ first ∈ selected,
        Relation.ReflTransGen (DependsOn nodes) first id := by
  obtain ⟨result, returns, once, begins, mem_iff⟩ :=
    Worklist.run_exact (@closed_allDependencies nodes selected) distinct
  have same : Worklist.Edge (dependenciesOf nodes) = DependsOn nodes := by
    funext first second
    exact propext mem_dependenciesOf
  refine ⟨result, ⟨(selected ++ allDependencies nodes).length, ?_⟩, once,
    begins, ?_⟩
  · intro fuel enough
    rw [reachablePackages, resolved]
    exact congrArg Except.ok (returns fuel enough)
  · intro id
    rw [mem_iff, Worklist.Reachable, same]

def cyclicNode (id : String) (dependencies : List String) : Json :=
  .object [("id", .string id),
    ("dependencies", .array (dependencies.map .string))]

/-- `a` and `b` depend on each other, `a` also on itself and on one that has
no node. -/
def cyclicMetadata : Json :=
  .object [("resolve", .object [("nodes", .array
    [cyclicNode "a" ["a", "b", "missing"], cyclicNode "b" ["a"],
      cyclicNode "c" ["b"]])])]

theorem reachablePackages_cyclic :
    ∃ result, (∃ enough, ∀ fuel, enough < fuel →
      reachablePackages fuel cyclicMetadata ["b"] = .ok (some result)) ∧
      result.Nodup := by
  obtain ⟨result, returns, once, -⟩ :=
    @reachablePackages_eq_closure _ cyclicMetadata ["b"] rfl (by simp)
  exact ⟨result, returns, once⟩

example : reachablePackages 5 cyclicMetadata ["b"] =
    .ok (some ["b", "a", "missing"]) := by
  rfl

end Telekio.Packages
