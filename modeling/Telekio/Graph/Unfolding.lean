import Mathlib.Data.List.Chain
import Mathlib.Data.List.Nodup

/-!
# Graphs that are unfolded to trees

The tree of all walks from an item of a graph. If the edges are those of a
family of sequences in which every item determines what is before it, the
walks from their first items are their beginnings.
-/

namespace Telekio.Unfolding

inductive RoseTree (α : Type*) where
  | node (value : α) (children : List (RoseTree α))

variable {α : Type*}

mutual

/-- The paths from the root of a tree. -/
def RoseTree.paths : RoseTree α → List (List α)
  | .node value children => [value] :: (pathsOf children).map (value :: ·)

/-- The paths from the roots of some trees. -/
def pathsOf : List (RoseTree α) → List (List α)
  | [] => []
  | tree :: rest => tree.paths ++ pathsOf rest

end

/-- The tree of what an item leads to; there is none if the fuel is used
up. -/
def grow (children : α → List α) : Nat → α → Option (RoseTree α)
  | 0, _ => none
  | fuel + 1, value =>
      ((children value).mapM (grow children fuel)).map (.node value)

def Edge (children : α → List α) (value next : α) : Prop :=
  next ∈ children value

/-- A walk from an item over edges. -/
def Walk (children : α → List α) (value : α) (path : List α) : Prop :=
  path.head? = some value ∧ path.IsChain (Edge children)

variable {children : α → List α} {value : α} {path : List α}
variable {fuel more : Nat} {tree : RoseTree α} {trees : List (RoseTree α)}
variable {items : List α}

theorem walk_iff : Walk children value path ↔
    path = [value] ∨ ∃ next ∈ children value, ∃ rest,
      path = value :: rest ∧ Walk children next rest := by
  constructor
  · rintro ⟨first, chain⟩
    cases path with
    | nil => cases first
    | cons head rest =>
        cases first
        cases rest with
        | nil => exact Or.inl rfl
        | cons next rest =>
            obtain ⟨edge, later⟩ := List.isChain_cons_cons.mp chain
            exact Or.inr ⟨next, edge, next :: rest, rfl, rfl, later⟩
  · rintro (rfl | ⟨next, edge, rest, rfl, first, chain⟩)
    · exact ⟨rfl, List.isChain_singleton value⟩
    · refine ⟨rfl, List.isChain_cons.mpr ⟨?_, chain⟩⟩
      intro other head
      rw [first] at head
      cases head
      exact edge

theorem mapM_eq_some {β : Type*} {f : α → Option β} {results : List β} :
    items.mapM f = some results ↔
      List.Forall₂ (fun item result => f item = some result) items
        results := by
  induction items generalizing results with
  | nil => simp [eq_comm]
  | cons item rest ih =>
      rw [List.mapM_cons]
      cases results with
      | nil => simp [Option.bind_eq_some_iff]
      | cons first later =>
          rw [List.forall₂_cons, ← ih]
          simp [Option.bind_eq_some_iff]

theorem grow_succ : grow children (fuel + 1) value = some tree ↔
    ∃ trees, tree = .node value trees ∧
      List.Forall₂ (fun next tree => grow children fuel next = some tree)
        (children value) trees := by
  rw [grow, Option.map_eq_some_iff]
  constructor
  · rintro ⟨trees, all, rfl⟩
    exact ⟨trees, rfl, mapM_eq_some.mp all⟩
  · rintro ⟨trees, rfl, all⟩
    exact ⟨trees, mapM_eq_some.mpr all, rfl⟩

theorem grow_mono (grown : grow children fuel value = some tree)
    (enough : fuel ≤ more) : grow children more value = some tree := by
  induction fuel generalizing value tree more with
  | zero => cases grown
  | succ fuel ih =>
      obtain ⟨more, rfl⟩ : ∃ less, more = less + 1 := ⟨more - 1, by omega⟩
      obtain ⟨trees, rfl, all⟩ := grow_succ.mp grown
      refine grow_succ.mpr ⟨trees, rfl, ?_⟩
      exact all.imp fun _ _ inside => ih inside (by omega)

/-- Trees for items, where there is one for each. -/
theorem exists_forall₂ {β : Type*} {related : α → β → Prop}
    (each : ∀ item ∈ items, ∃ result, related item result) :
    ∃ results, List.Forall₂ related items results := by
  induction items with
  | nil => exact ⟨[], .nil⟩
  | cons item rest ih =>
      obtain ⟨first, here⟩ := each item List.mem_cons_self
      obtain ⟨later, all⟩ :=
        ih fun other member => each other (List.mem_cons_of_mem _ member)
      exact ⟨first :: later, .cons here all⟩

/-- If all walks from an item are short, there is a tree. -/
theorem grow_of_bounded (bounded : ∀ path, Walk children value path →
    path.length ≤ fuel) : ∃ tree, grow children fuel value = some tree := by
  induction fuel generalizing value with
  | zero =>
      have short := bounded [value] (walk_iff.mpr (Or.inl rfl))
      cases short
  | succ fuel ih =>
      obtain ⟨trees, all⟩ := exists_forall₂
        (fun next (edge : next ∈ children value) => @ih next (by
          intro path walk
          have longer := bounded (value :: path)
            (walk_iff.mpr (Or.inr ⟨next, edge, path, rfl, walk⟩))
          exact Nat.le_of_succ_le_succ longer))
      exact ⟨.node value trees, grow_succ.mpr ⟨trees, rfl, all⟩⟩

/-- If all walks are short, there are trees, the same with more fuel. -/
theorem exists_trees (bounded : ∀ item ∈ items, ∀ path,
    Walk children item path → path.length ≤ fuel) :
    ∃ trees, ∀ more, fuel ≤ more → List.Forall₂ (fun item tree =>
      grow children more item = some tree) items trees := by
  obtain ⟨trees, all⟩ := exists_forall₂ fun item member =>
    grow_of_bounded (bounded item member)
  refine ⟨trees, fun more enough => ?_⟩
  exact all.imp fun _ _ grown => grow_mono grown enough

theorem mem_pathsOf_of_all
    (each : ∀ item ∈ items, ∀ tree, grow children fuel item = some tree →
      ∀ path, path ∈ tree.paths ↔ Walk children item path)
    (all : List.Forall₂ (fun item tree => grow children fuel item =
      some tree) items trees) :
    path ∈ pathsOf trees ↔ ∃ item ∈ items, Walk children item path := by
  induction all with
  | nil => simp [pathsOf]
  | cons grown _ ih =>
      rw [pathsOf, List.mem_append, List.exists_mem_cons_iff,
        each _ List.mem_cons_self _ grown,
        ih fun other member => each other (List.mem_cons_of_mem _ member)]

/-- The paths of a tree are the walks from its root. -/
theorem mem_paths (grown : grow children fuel value = some tree) :
    path ∈ tree.paths ↔ Walk children value path := by
  induction fuel generalizing value tree path with
  | zero => cases grown
  | succ fuel ih =>
      obtain ⟨trees, rfl, all⟩ := grow_succ.mp grown
      rw [RoseTree.paths, List.mem_cons, List.mem_map, walk_iff]
      refine or_congr Iff.rfl ?_
      constructor
      · rintro ⟨rest, member, rfl⟩
        obtain ⟨next, edge, walk⟩ := (mem_pathsOf_of_all
          (fun _ _ _ grown _ => ih grown) all).mp member
        exact ⟨next, edge, rest, rfl, walk⟩
      · rintro ⟨next, edge, rest, rfl, walk⟩
        exact ⟨rest, (mem_pathsOf_of_all
          (fun _ _ _ grown _ => ih grown) all).mpr ⟨next, edge, walk⟩, rfl⟩

theorem mem_pathsOf (all : List.Forall₂ (fun item tree =>
    grow children fuel item = some tree) items trees) :
    path ∈ pathsOf trees ↔ ∃ item ∈ items, Walk children item path :=
  mem_pathsOf_of_all (fun _ _ _ grown _ => mem_paths grown) all

theorem nodup_pathsOf_of_all
    (each : ∀ item ∈ items, ∀ tree, grow children fuel item = some tree →
      tree.paths.Nodup)
    (distinct : items.Nodup)
    (all : List.Forall₂ (fun item tree => grow children fuel item =
      some tree) items trees) :
    (pathsOf trees).Nodup := by
  induction all with
  | nil => exact List.nodup_nil
  | cons grown rest ih =>
      obtain ⟨fresh, distinct⟩ := List.nodup_cons.mp distinct
      refine List.nodup_append.mpr ⟨each _ List.mem_cons_self _ grown,
        ih (fun other member => each other (List.mem_cons_of_mem _ member))
          distinct, ?_⟩
      rintro path here _ there rfl
      obtain ⟨item, member, walk⟩ := (mem_pathsOf rest).mp there
      have first := ((mem_paths grown).mp here).1
      rw [walk.1] at first
      cases first
      exact fresh member

/-- If no item leads to another one twice, every path is there once. -/
theorem nodup_paths (distinct : ∀ value, (children value).Nodup)
    (grown : grow children fuel value = some tree) : tree.paths.Nodup := by
  induction fuel generalizing value tree with
  | zero => cases grown
  | succ fuel ih =>
      obtain ⟨trees, rfl, all⟩ := grow_succ.mp grown
      have once : (pathsOf trees).Nodup :=
        nodup_pathsOf_of_all (fun _ _ _ grown => ih grown) (distinct value)
          all
      have longer : [value] ∉ (pathsOf trees).map (value :: ·) := by
        intro member
        obtain ⟨path, inside, same⟩ := List.mem_map.mp member
        obtain ⟨next, -, walk⟩ := (mem_pathsOf all).mp inside
        cases same
        cases walk.1
      exact List.nodup_cons.mpr
        ⟨longer, once.map (List.cons_injective)⟩

theorem nodup_pathsOf (distinct : ∀ value, (children value).Nodup)
    (once : items.Nodup) (all : List.Forall₂ (fun item tree =>
      grow children fuel item = some tree) items trees) :
    (pathsOf trees).Nodup :=
  nodup_pathsOf_of_all (fun _ _ _ grown => nodup_paths distinct grown) once
    all

/-- One item comes directly after another in a sequence. -/
def Follows (value next : α) (sequence : List α) : Prop :=
  ∃ before after, sequence = before ++ value :: next :: after

def Adjacent (sequences : List (List α)) (value next : α) : Prop :=
  ∃ sequence ∈ sequences, Follows value next sequence

/-- Every item determines what is before it. -/
def Separated (sequences : List (List α)) : Prop :=
  ∀ first ∈ sequences, ∀ second ∈ sequences,
    ∀ before value after front rest, first = before ++ value :: after →
      second = front ++ value :: rest → before = front

variable {sequences : List (List α)} {next : α}

theorem follows_cons_iff {first : α} {rest : List α} :
    Follows value next (first :: rest) ↔
      (value = first ∧ rest.head? = some next) ∨ Follows value next rest := by
  constructor
  · rintro ⟨before, after, same⟩
    cases before with
    | nil =>
        cases same
        exact Or.inl ⟨rfl, rfl⟩
    | cons _ before =>
        cases same
        exact Or.inr ⟨before, after, rfl⟩
  · rintro (⟨rfl, begins⟩ | ⟨before, after, rfl⟩)
    · obtain ⟨after, rfl⟩ := List.head?_eq_some_iff.mp begins
      exact ⟨[], after, rfl⟩
    · exact ⟨first :: before, after, rfl⟩

theorem adjacent_append_singleton {sequence : List α} :
    Adjacent (sequences ++ [sequence]) value next ↔
      Adjacent sequences value next ∨ Follows value next sequence := by
  simp only [Adjacent, List.mem_append, List.mem_singleton, or_and_right,
    exists_or, exists_eq_left]

theorem isChain_adjacent {sequence : List α} (member : sequence ∈ sequences) :
    sequence.IsChain (Adjacent sequences) := by
  rw [List.isChain_iff_forall_rel_of_append_cons_cons]
  intro value next before after same
  exact ⟨sequence, member, before, after, same⟩

/-- A walk that begins as a sequence does is the beginning of a sequence. -/
theorem exists_prefix_of_isChain (separated : Separated sequences)
    (first : ∃ sequence ∈ sequences, [value] <+: sequence)
    (chain : (value :: path).IsChain (Adjacent sequences)) :
    ∃ sequence ∈ sequences, value :: path <+: sequence := by
  induction path using List.reverseRecOn with
  | nil => exact first
  | append_singleton path next ih =>
      rw [← List.cons_append] at chain ⊢
      obtain ⟨front, last, same⟩ : ∃ front last,
          value :: path = front ++ [last] :=
        ⟨_, _, (List.dropLast_append_getLast (List.cons_ne_nil _ _)).symm⟩
      obtain ⟨first, member, rest, begins⟩ := ih chain.left_of_append
      rw [same, List.append_assoc, List.singleton_append] at chain begins
      obtain ⟨second, there, before, after, adjacent⟩ :=
        (List.isChain_append_cons_cons.mp chain).2.1
      have earlier : front = before :=
        separated first member second there front last rest before
          (next :: after) begins.symm adjacent
      refine ⟨second, there, after, ?_⟩
      rw [same, earlier, adjacent]
      simp

/-- The walks over the edges of separated sequences, from their first items
on, are their beginnings. -/
theorem walk_iff_prefix (separated : Separated sequences)
    (edges : ∀ value next, next ∈ children value ↔
      Adjacent sequences value next)
    (begins : ∀ value, value ∈ items ↔
      ∃ sequence ∈ sequences, sequence.head? = some value) :
    (∃ item ∈ items, Walk children item path) ↔
      path ≠ [] ∧ ∃ sequence ∈ sequences, path <+: sequence := by
  have same : Edge children = Adjacent sequences := by
    funext value next
    exact propext (edges value next)
  constructor
  · rintro ⟨item, member, first, chain⟩
    cases path with
    | nil => cases first
    | cons head rest =>
        cases first
        refine ⟨List.cons_ne_nil _ _, ?_⟩
        rw [same] at chain
        refine exists_prefix_of_isChain separated ?_ chain
        obtain ⟨sequence, there, found⟩ := (begins _).mp member
        obtain ⟨rest, rfl⟩ := List.head?_eq_some_iff.mp found
        exact ⟨_, there, rest, rfl⟩
  · rintro ⟨nonempty, sequence, member, rest, rfl⟩
    cases path with
    | nil => exact absurd rfl nonempty
    | cons head path =>
        refine ⟨head, (begins head).mpr ⟨_, member, rfl⟩, rfl, ?_⟩
        rw [same]
        exact (isChain_adjacent member).left_of_append

end Telekio.Unfolding
