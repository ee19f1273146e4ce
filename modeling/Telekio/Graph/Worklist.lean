import Mathlib.Data.List.Infix
import Mathlib.Data.List.Nodup
import Mathlib.Logic.Relation

/-!
# Closures with a list that grows

A list of items is visited from its start, and what comes next of each item is
appended, unless it is there already. What has been visited when there is
nothing left to visit is the closure of the items at the start.
-/

namespace Telekio.Worklist

variable {α : Type*} {next : α → List α} {found items start whole : List α}
variable {item : α} {index fuel : Nat}

/-- One item comes next of another. -/
def Edge (next : α → List α) (first second : α) : Prop :=
  second ∈ next first

/-- What can be reached from the start. -/
def Reachable (next : α → List α) (start : List α) (item : α) : Prop :=
  ∃ first ∈ start, Relation.ReflTransGen (Edge next) first item

theorem Reachable.step {other : α} (reachable : Reachable next start item)
    (edge : other ∈ next item) : Reachable next start other := by
  obtain ⟨first, member, path⟩ := reachable
  exact ⟨first, member, path.tail edge⟩

/-- A list that has the items at the start and all that comes next. -/
structure Closed (next : α → List α) (start whole : List α) : Prop where
  begins : start ⊆ whole
  closed : ∀ item ∈ whole, next item ⊆ whole

theorem Closed.mem (closed : Closed next start whole)
    (reachable : Reachable next start item) : item ∈ whole := by
  obtain ⟨first, member, path⟩ := reachable
  induction path with
  | refl => exact closed.begins member
  | tail _ edge ih => exact closed.closed _ ih edge

/-- Before the item at an index is visited. What is before it has been. -/
structure Explored (next : α → List α) (start found : List α)
    (index : Nat) : Prop where
  distinct : found.Nodup
  begins : start <+: found
  sound : ∀ item ∈ found, Reachable next start item
  visited : ∀ before item, before < index → found[before]? = some item →
    next item ⊆ found

theorem explored_start (distinct : start.Nodup) :
    Explored next start start 0 where
  distinct := distinct
  begins := List.prefix_rfl
  sound := fun item member => ⟨item, member, .refl⟩
  visited := fun _ _ before => absurd before (Nat.not_lt_zero _)

/-- What is explored to the end is what can be reached. -/
theorem Explored.mem_iff (explored : Explored next start found found.length) :
    item ∈ found ↔ Reachable next start item := by
  have closed : Closed next start found := by
    refine ⟨explored.begins.subset, ?_⟩
    intro item member
    obtain ⟨before, inside, there⟩ := List.getElem_of_mem member
    exact explored.visited before item inside
      (List.getElem?_eq_some_iff.mpr ⟨inside, there⟩)
  exact ⟨explored.sound item, closed.mem⟩

variable [DecidableEq α]

/-- The items that are not there yet are appended, one by one. -/
def extend (found : List α) : List α → List α
  | [] => found
  | item :: rest =>
      if item ∈ found then extend found rest
      else extend (found ++ [item]) rest

/-- From an index on; there is no result if the fuel is used up. -/
def run (next : α → List α) : Nat → List α → Nat → Option (List α)
  | 0, _, _ => none
  | fuel + 1, found, index =>
      match found[index]? with
      | none => some found
      | some item => run next fuel (extend found (next item)) (index + 1)

theorem prefix_extend : found <+: extend found items := by
  induction items generalizing found with
  | nil => exact List.prefix_rfl
  | cons first rest ih =>
      unfold extend
      split
      · exact ih
      · exact (List.prefix_append found [first]).trans ih

theorem mem_extend :
    item ∈ extend found items ↔ item ∈ found ∨ item ∈ items := by
  induction items generalizing found with
  | nil => simp [extend]
  | cons first rest ih =>
      unfold extend
      split
      · rename_i there
        rw [ih, List.mem_cons]
        constructor
        · rintro (old | later)
          · exact Or.inl old
          · exact Or.inr (Or.inr later)
        · rintro (old | rfl | later)
          · exact Or.inl old
          · exact Or.inl there
          · exact Or.inr later
      · rw [ih, List.mem_append, List.mem_singleton, List.mem_cons, or_assoc]

theorem nodup_extend (distinct : found.Nodup) :
    (extend found items).Nodup := by
  induction items generalizing found with
  | nil => exact distinct
  | cons first rest ih =>
      unfold extend
      split
      · exact ih distinct
      · rename_i missing
        refine ih (List.nodup_append.mpr
          ⟨distinct, List.nodup_singleton _, ?_⟩)
        intro old member other new same
        rw [List.mem_singleton.mp new] at same
        exact missing (same ▸ member)

theorem Explored.step (explored : Explored next start found index)
    (current : found[index]? = some item) :
    Explored next start (extend found (next item)) (index + 1) where
  distinct := nodup_extend explored.distinct
  begins := explored.begins.trans prefix_extend
  sound := by
    intro other member
    rcases mem_extend.mp member with old | new
    · exact explored.sound other old
    · exact (explored.sound item (List.mem_of_getElem? current)).step new
  visited := by
    intro before other earlier there later follows
    obtain ⟨rest, split⟩ := @prefix_extend _ found (next item) _
    have inside := (List.getElem?_eq_some_iff.mp current).1
    have within : before < found.length := by omega
    rw [← split, List.getElem?_append_left within] at there
    rw [mem_extend]
    rcases Nat.lt_or_ge before index with lower | notLower
    · exact Or.inl (explored.visited before other lower there follows)
    · have same : before = index := by omega
      rw [same, current] at there
      cases there
      exact Or.inr follows

/-- The loop returns what is explored to the end. -/
theorem Explored.of_run {result : List α}
    (explored : Explored next start found index)
    (returned : run next fuel found index = some result) :
    Explored next start result result.length := by
  induction fuel generalizing found index with
  | zero => cases returned
  | succ fuel ih =>
      unfold run at returned
      split at returned
      · rename_i past
        cases returned
        refine ⟨explored.distinct, explored.begins, explored.sound, ?_⟩
        intro before item inside
        have lower : before < index :=
          lt_of_lt_of_le inside (List.getElem?_eq_none_iff.mp past)
        exact explored.visited before item lower
      · rename_i item current
        exact ih (explored.step current) returned

/-- More fuel changes nothing. -/
theorem run_mono {more : Nat} {result : List α}
    (returned : run next fuel found index = some result)
    (enough : fuel ≤ more) : run next more found index = some result := by
  induction fuel generalizing found index more with
  | zero => cases returned
  | succ fuel ih =>
      cases more with
      | zero => omega
      | succ more =>
          unfold run at returned ⊢
          split
          · rename_i past
            simpa [past] using returned
          · rename_i item current
            rw [current] at returned
            exact ih returned (by omega)

/-- The items that are found are distinct items of a closed list, so that the
loop ends after as many steps. -/
theorem run_of_closed (closed : Closed next start whole)
    (explored : Explored next start found index)
    (enough : whole.length < index + fuel) (bounded : index ≤ found.length) :
    ∃ result, run next fuel found index = some result := by
  induction fuel generalizing found index with
  | zero =>
      have within : found ⊆ whole :=
        fun item member => closed.mem (explored.sound item member)
      have few := explored.distinct.length_le_of_subset within
      omega
  | succ fuel ih =>
      unfold run
      split
      · exact ⟨found, rfl⟩
      · rename_i item current
        have inside := (List.getElem?_eq_some_iff.mp current).1
        have grows := (@prefix_extend _ found (next item) _).length_le
        exact ih (explored.step current) (by omega) (by omega)

/-- With enough fuel the loop returns what can be reached, each item once,
beginning with the start. -/
theorem run_exact (closed : Closed next start whole)
    (distinct : start.Nodup) :
    ∃ result, (∀ fuel, whole.length < fuel →
        run next fuel start 0 = some result) ∧
      result.Nodup ∧ start <+: result ∧
      ∀ item, item ∈ result ↔ Reachable next start item := by
  have explored : Explored next start start 0 := explored_start distinct
  obtain ⟨result, returned⟩ :=
    @run_of_closed _ _ _ _ _ 0 (whole.length + 1) _ closed explored (by omega)
      (Nat.zero_le _)
  have ended := explored.of_run returned
  refine ⟨result, ?_, ended.distinct, ended.begins, fun _ => ended.mem_iff⟩
  exact fun fuel enough => run_mono returned enough

end Telekio.Worklist
