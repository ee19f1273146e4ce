import Telekio.Graph.Unfolding

/-!
# Trees of traces

`format` and `display` of `guest/runtime/task/trace/tree.rs`. A formatter that
fails is left out.
-/

namespace Telekio.Dumping

open Telekio.Unfolding

variable {T : Type}

/-- The orders in which the sets are gone through: that of the roots, and the
one for each frame. -/
structure Arrangement (T : Type) where
  order : Option T → List T → List T
  perm : ∀ owner items, (order owner items).Perm items

/-- A `HashSet` is a list without repetitions here. -/
structure Collected (T : Type) where
  roots : List T
  edges : T → Option (List T)

section Collecting

variable [DecidableEq T]

def addFrames (edges : T → Option (List T)) : List T → T → Option (List T)
  | [] => edges
  | frame :: trace =>
      let subframes := (edges frame).getD []
      addFrames (Function.update edges frame (some
        (match trace.head? with
        | some subframe => subframes.insert subframe
        | none => subframes))) trace

def addTrace (collected : Collected T) (trace : List T) : Collected T where
  roots :=
    match trace.head? with
    | some first => collected.roots.insert first
    | none => collected.roots
  edges := addFrames collected.edges trace

/-- The first loop of `format`. -/
def collect (traces : List (List T)) : Collected T :=
  traces.foldl addTrace ⟨[], fun _ => none⟩

end Collecting

/-- The text for a frame and what the frames below it begin with. -/
def branch (last : Bool) (prefix_ root : String) : String × String :=
  if last then
    (prefix_ ++ "└╼\u00a0" ++ root, prefix_ ++ "\u00a0\u00a0\u00a0")
  else
    (prefix_ ++ "├╼\u00a0" ++ root, prefix_ ++ "│\u00a0\u00a0")

/-- The text without its first two characters. -/
def withoutTwo (current : String) : String :=
  String.ofList (current.toList.drop 2)

variable (arrangement : Arrangement T) (shown : T → String)

/-- The fuel bounds the depth of the recursion. -/
def display (edges : T → Option (List T)) :
    Nat → T → Bool → String → Option String
  | 0, _, _, _ => none
  | fuel + 1, root, last, prefix_ =>
      let current := (branch last prefix_ (shown root)).1
      let next := (branch last prefix_ (shown root)).2
      match edges root with
      | some children =>
          let children := arrangement.order (some root) children
          let len := children.length
          (children.zipIdx.mapM fun (child, index) =>
            (display edges fuel child (index = len - 1) next).map
              ("\n" ++ ·)).map fun texts =>
                withoutTwo current ++ String.join texts
      | none => some (withoutTwo current)

def format [DecidableEq T] (fuel : Nat) (traces : List (List T)) :
    Option String :=
  let collected := collect traces
  ((arrangement.order none collected.roots).mapM fun root =>
    display arrangement shown collected.edges fuel root true " ").map
      String.join

mutual

/-- The text of a tree. -/
def render (shown : T → String) (last : Bool) (prefix_ : String) :
    RoseTree T → String
  | .node root children =>
      withoutTwo (branch last prefix_ (shown root)).1 ++
        renderBelow shown (branch last prefix_ (shown root)).2 children

/-- The text of the trees below a frame, each on lines of its own. -/
def renderBelow (shown : T → String) (prefix_ : String) :
    List (RoseTree T) → String
  | [] => ""
  | child :: rest =>
      "\n" ++ render shown rest.isEmpty prefix_ child ++
        renderBelow shown prefix_ rest

end

/-- The frames below a frame, in their order. -/
def below (arrangement : Arrangement T) (edges : T → Option (List T))
    (root : T) : List T :=
  arrangement.order (some root) ((edges root).getD [])

variable {arrangement shown} {edges : T → Option (List T)}
variable {frames : List T} {trees : List (RoseTree T)} {tree : RoseTree T}
variable {root : T} {fuel : Nat}

theorem renderBelow_of_all {print : T → Bool → Option String}
    {next : String} {start len : Nat} (whole : len = start + frames.length)
    (all : List.Forall₂ (fun frame tree => ∀ last, print frame last =
      some (render shown last next tree)) frames trees) :
    ∃ texts, ((frames.zipIdx start).mapM fun (frame, index) =>
      (print frame (index = len - 1)).map ("\n" ++ ·)) = some texts ∧
        String.join texts = renderBelow shown next trees := by
  induction all generalizing start with
  | nil => exact ⟨[], rfl, rfl⟩
  | @cons frame tree rest trees printed all ih =>
      obtain ⟨texts, later, joined⟩ :=
        @ih (start + 1) (by rw [whole, List.length_cons]; omega)
      have last : decide (start = len - 1) = trees.isEmpty := by
        rw [whole, List.length_cons, all.length_eq, Bool.eq_iff_iff,
          decide_eq_true_iff, List.isEmpty_iff_length_eq_zero]
        omega
      refine ⟨("\n" ++ render shown trees.isEmpty next tree) :: texts, ?_, ?_⟩
      · rw [List.zipIdx_cons, List.mapM_cons, later]
        simp [last, printed]
      · rw [String.join_cons, joined, renderBelow]

theorem display_of_grow
    (grown : grow (below arrangement edges) fuel root = some tree)
    (last : Bool) (prefix_ : String) :
    display arrangement shown edges fuel root last prefix_ =
      some (render shown last prefix_ tree) := by
  induction fuel generalizing root tree last prefix_ with
  | zero => cases grown
  | succ fuel ih =>
      obtain ⟨trees, rfl, all⟩ := grow_succ.mp grown
      rw [display, render]
      unfold below at all
      cases found : edges root with
      | none =>
          rw [found, Option.getD_none,
            (arrangement.perm (some root) []).eq_nil] at all
          cases all
          rw [renderBelow, String.append_empty]
      | some children =>
          rw [found, Option.getD_some] at all
          obtain ⟨texts, printed, joined⟩ :=
            @renderBelow_of_all _ shown _ _
              (fun child ending => display arrangement shown edges fuel child
                ending (branch last prefix_ (shown root)).2)
              (branch last prefix_ (shown root)).2 0 _
              (Nat.zero_add _).symm
              (all.imp fun _ _ grown ending => ih grown ending _)
          simp only [printed, Option.map_some, joined]

section Collected

variable [DecidableEq T] {traces : List (List T)} {frame next : T}

theorem collect_append_singleton (trace : List T) :
    collect (traces ++ [trace]) = addTrace (collect traces) trace := by
  rw [collect, List.foldl_append]
  rfl

theorem mem_roots : frame ∈ (collect traces).roots ↔
    ∃ trace ∈ traces, trace.head? = some frame := by
  induction traces using List.reverseRecOn with
  | nil => simp [collect]
  | append_singleton traces trace ih =>
      rw [collect_append_singleton, addTrace]
      cases begins : trace.head? with
      | none => simp [ih, or_and_right, exists_or, begins]
      | some first =>
          simp only [List.mem_insert_iff, ih, List.mem_append,
            List.mem_singleton, or_and_right, exists_or, exists_eq_left,
            begins, Option.some.injEq]
          rw [or_comm, eq_comm]

theorem nodup_roots : (collect traces).roots.Nodup := by
  induction traces using List.reverseRecOn with
  | nil => exact List.nodup_nil
  | append_singleton traces trace ih =>
      rw [collect_append_singleton, addTrace]
      cases trace.head? with
      | none => exact ih
      | some first => exact ih.insert

theorem mem_addFrames {trace : List T} :
    next ∈ ((addFrames edges trace) frame).getD [] ↔
      next ∈ (edges frame).getD [] ∨ Follows frame next trace := by
  induction trace generalizing edges with
  | nil => simp [addFrames, Follows]
  | cons first trace ih =>
      rw [addFrames, ih, follows_cons_iff, ← or_assoc]
      refine or_congr ?_ Iff.rfl
      by_cases same : frame = first
      · subst same
        rw [Function.update_self, Option.getD_some]
        cases begins : trace.head? with
        | none => simp
        | some subframe => simp [or_comm, eq_comm]
      · rw [Function.update_of_ne same]
        simp [same]

theorem nodup_addFrames {trace : List T}
    (distinct : ∀ frame, ((edges frame).getD []).Nodup) (frame : T) :
    (((addFrames edges trace) frame).getD []).Nodup := by
  induction trace generalizing edges with
  | nil => exact distinct frame
  | cons first trace ih =>
      rw [addFrames]
      refine ih fun frame => ?_
      by_cases same : frame = first
      · subst same
        rw [Function.update_self, Option.getD_some]
        cases trace.head? with
        | none => exact distinct frame
        | some subframe => exact (distinct frame).insert
      · rw [Function.update_of_ne same]
        exact distinct frame

theorem mem_edges : next ∈ ((collect traces).edges frame).getD [] ↔
    Adjacent traces frame next := by
  induction traces using List.reverseRecOn with
  | nil => simp [collect, Adjacent]
  | append_singleton traces trace ih =>
      rw [collect_append_singleton, adjacent_append_singleton, ← ih]
      exact mem_addFrames

theorem nodup_edges (frame : T) :
    (((collect traces).edges frame).getD []).Nodup := by
  induction traces using List.reverseRecOn generalizing frame with
  | nil => exact List.nodup_nil
  | append_singleton traces trace ih =>
      rw [collect_append_singleton]
      exact nodup_addFrames ih frame

/-- The edges that are printed are those of the traces. -/
theorem mem_below :
    next ∈ below arrangement (collect traces).edges frame ↔
      Adjacent traces frame next := by
  rw [below, (arrangement.perm _ _).mem_iff, mem_edges]

theorem mem_order_roots :
    frame ∈ arrangement.order none (collect traces).roots ↔
      ∃ trace ∈ traces, trace.head? = some frame := by
  rw [(arrangement.perm _ _).mem_iff, mem_roots]

/-- If every frame determines what is before it, the printer ends, and its
text is that of trees whose paths are the beginnings of the traces. -/
theorem format_of_separated (arrangement : Arrangement T)
    (shown : T → String) (separated : Separated traces) :
    ∃ trees enough,
      (∀ fuel, enough ≤ fuel → format arrangement shown fuel traces =
        some (String.join (trees.map (render shown true " ")))) ∧
      (pathsOf trees).Nodup ∧
      ∀ path, path ∈ pathsOf trees ↔
        path ≠ [] ∧ ∃ trace ∈ traces, path <+: trace := by
  have walks : ∀ path, (∃ root ∈ arrangement.order none
      (collect traces).roots, Walk (below arrangement (collect traces).edges)
        root path) ↔ path ≠ [] ∧ ∃ trace ∈ traces, path <+: trace := by
    intro path
    exact walk_iff_prefix separated (fun _ _ => mem_below)
      (fun _ => mem_order_roots)
  have bounded : ∀ root ∈ arrangement.order none (collect traces).roots,
      ∀ path, Walk (below arrangement (collect traces).edges) root path →
        path.length ≤ traces.flatten.length := by
    intro root member path walk
    obtain ⟨-, trace, there, begins⟩ := (walks path).mp ⟨root, member, walk⟩
    exact begins.length_le.trans
      (List.sublist_flatten_of_mem there).length_le
  obtain ⟨trees, grown⟩ := exists_trees bounded
  refine ⟨trees, traces.flatten.length, ?_, ?_, ?_⟩
  · intro fuel enough
    have printed : (arrangement.order none (collect traces).roots).mapM
        (fun root => display arrangement shown (collect traces).edges fuel
          root true " ") = some (trees.map (render shown true " ")) := by
      rw [mapM_eq_some, List.forall₂_map_right_iff]
      exact (grown fuel enough).imp
        fun _ _ inside => display_of_grow inside true " "
    simp only [format, printed, Option.map_some]
  · refine nodup_pathsOf (fun frame => ?_) ?_ (grown _ le_rfl)
    · exact (arrangement.perm _ _).nodup_iff.mpr (nodup_edges frame)
    · exact (arrangement.perm _ _).nodup_iff.mpr nodup_roots
  · intro path
    rw [mem_pathsOf (grown _ le_rfl), walks]

end Collected

end Telekio.Dumping
