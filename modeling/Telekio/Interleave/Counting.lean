import Mathlib.Algebra.BigOperators.Group.Finset.Piecewise
import Mathlib.Algebra.Order.BigOperators.Group.Finset
import Mathlib.Data.Fintype.EquivFin
import Telekio.Interleave.Program

/-!
# Counters of what the threads hold

A counter in the shared state counts something that the threads hold: guards,
references, clones. When every move changes the counter as it changes the
holdings of its thread, the counter is their sum.
-/

namespace Telekio.Interleave

universe u v w

variable {Shared : Type u} {Local : Type v} {Op : Type w}

namespace Program

/-- The discipline under which `count` counts what `holds` tells of the
threads. -/
structure Counting (program : Program Shared Local Op)
    (count : Shared → Nat) (holds : Local → Nat) : Prop where
  initially : ∀ shared, program.initial shared → count shared = 0
  starts : ∀ first, program.start first → holds first = 0
  moves : ∀ world thread current op next,
    program.Reachable world →
    world.threads thread = some current →
    program.act world.shared current op next →
    holds current ≤ count world.shared →
    count (program.apply op world.shared) + holds current =
      count world.shared + holds next

/-- What the thread in a slot of the world holds. -/
def holding (holds : Local → Nat) (slot : Option Local) : Nat :=
  slot.elim 0 holds

/-- The counter is the sum over finitely many threads that include all. -/
def Counted (count : Shared → Nat) (holds : Local → Nat)
    (world : World Shared Local) : Prop :=
  ∃ threads : Finset Nat,
    (∀ thread, thread ∉ threads → world.threads thread = none) ∧
      count world.shared =
        threads.sum fun thread => holding holds (world.threads thread)

variable {count : Shared → Nat} {holds : Local → Nat}

/-- One slot of the sum changes. -/
theorem sum_holding_put (world : World Shared Local) (shared : Shared)
    (next : Local) {thread : Nat} {threads : Finset Nat}
    (member : thread ∈ threads) :
    (threads.sum fun other =>
        holding holds ((world.put shared thread next).threads other)) +
        holding holds (world.threads thread) =
      (threads.sum fun other => holding holds (world.threads other)) +
        holds next := by
  have changed : (fun other => holding holds
      ((world.put shared thread next).threads other)) =
      Function.update (fun other => holding holds (world.threads other))
        thread (holds next) := by
    funext other
    by_cases same : other = thread
    · subst same
      simp [holding]
    · rw [World.put_threads_of_ne _ _ _ same,
        Function.update_of_ne same]
  rw [changed, Finset.sum_update_of_mem member,
    ← Finset.sum_sdiff (Finset.singleton_subset_iff.mpr member)]
  simp only [Finset.sum_singleton]
  ac_rfl

/-- A move changes the sum by what its thread takes up or puts down. -/
theorem exists_sum_put (world : World Shared Local) (shared : Shared)
    (thread : Nat) (next : Local) {threads : Finset Nat}
    (outside : ∀ thread, thread ∉ threads → world.threads thread = none) :
    ∃ wider : Finset Nat,
      (∀ other, other ∉ wider →
        (world.put shared thread next).threads other = none) ∧
      (wider.sum fun other => holding holds
          ((world.put shared thread next).threads other)) +
          holding holds (world.threads thread) =
        (threads.sum fun other => holding holds (world.threads other)) +
          holds next := by
  refine ⟨insert thread threads, ?_, ?_⟩
  · intro other absent
    rw [Finset.mem_insert, not_or] at absent
    rw [World.put_threads_of_ne _ _ _ absent.1]
    exact outside other absent.2
  · have widened :
        ((insert thread threads).sum fun other =>
          holding holds (world.threads other)) =
        threads.sum fun other => holding holds (world.threads other) := by
      by_cases member : thread ∈ threads
      · rw [Finset.insert_eq_of_mem member]
      · rw [Finset.sum_insert member, outside thread member]
        exact Nat.zero_add _
    rw [← widened]
    exact sum_holding_put world shared next
      (Finset.mem_insert_self thread threads)

/-- No thread holds more than the sum. -/
theorem holding_le_sum {world : World Shared Local}
    {threads : Finset Nat}
    (outside : ∀ thread, thread ∉ threads → world.threads thread = none)
    (thread : Nat) :
    holding holds (world.threads thread) ≤
      threads.sum fun other => holding holds (world.threads other) := by
  by_cases member : thread ∈ threads
  · exact Finset.single_le_sum
      (f := fun other => holding holds (world.threads other))
      (fun _ _ => Nat.zero_le _) member
  · rw [outside thread member]
    exact Nat.zero_le _

theorem holds_le_of_counted {world : World Shared Local}
    (counted : Counted count holds world)
    {thread : Nat} {found : Local}
    (running : world.threads thread = some found) :
    holds found ≤ count world.shared := by
  obtain ⟨threads, outside, total⟩ := counted
  have bound := @holding_le_sum _ _ holds _ _ outside thread
  rw [running] at bound
  rw [total]
  exact bound

theorem counted_put
    {world : World Shared Local} {shared : Shared} {thread : Nat}
    {next : Local}
    (balanced : count shared + holding holds (world.threads thread) =
      count world.shared + holds next)
    (counted : Counted count holds world) :
    Counted count holds (world.put shared thread next) := by
  obtain ⟨threads, outside, total⟩ := counted
  obtain ⟨wider, outsideAfter, changed⟩ :=
    @exists_sum_put _ _ holds world shared thread next _ outside
  refine ⟨wider, outsideAfter, ?_⟩
  rw [World.put_shared]
  omega

variable {program : Program Shared Local Op}

namespace Counting

/-- In every reachable world the counter is exact. -/
theorem counted (counting : program.Counting count holds)
    {world : World Shared Local} (reached : program.Reachable world) :
    Counted count holds world := by
  refine invariant (Counted count holds) ?_ ?_ reached
  · intro shared initial
    exact ⟨∅, fun _ _ => rfl, counting.initially shared initial⟩
  · intro before after reachedBefore step held
    cases step with
    | @fork thread first free starts =>
        refine counted_put ?_ held
        rw [free, counting.starts first starts]
        rfl
    | move moves =>
        obtain ⟨running, acts⟩ := moves
        refine counted_put ?_ held
        rw [running]
        exact counting.moves _ _ _ _ _ reachedBefore running acts
          (holds_le_of_counted held running)

/-- When nothing is counted, nobody holds anything. -/
theorem holds_eq_zero (counting : program.Counting count holds)
    {world : World Shared Local} (reached : program.Reachable world)
    (none : count world.shared = 0) {thread : Nat} {found : Local}
    (running : world.threads thread = some found) :
    holds found = 0 :=
  Nat.le_zero.mp (none ▸ holds_le_of_counted
    (counting.counted reached) running)

/-- What is counted is held by some thread. -/
theorem exists_holder (counting : program.Counting count holds)
    {world : World Shared Local} (reached : program.Reachable world)
    (nonzero : count world.shared ≠ 0) :
    ∃ thread found, world.threads thread = some found ∧
      holds found ≠ 0 := by
  obtain ⟨threads, _, total⟩ := counting.counted reached
  rw [total] at nonzero
  obtain ⟨thread, _, held⟩ := Finset.exists_ne_zero_of_sum_ne_zero nonzero
  cases running : world.threads thread with
  | none => exact absurd (by rw [running]; rfl) held
  | some found =>
      rw [running] at held
      exact ⟨thread, found, running, held⟩

end Counting

/-- Only finitely many threads have begun. -/
theorem exists_free {world : World Shared Local}
    (reached : program.Reachable world) :
    ∃ thread, world.threads thread = none := by
  have nothing : program.Counting (fun _ => 0) (fun _ => 0) :=
    ⟨fun _ _ => rfl, fun _ _ => rfl, fun _ _ _ _ _ _ _ _ _ => rfl⟩
  obtain ⟨threads, outside, _⟩ := nothing.counted reached
  obtain ⟨thread, absent⟩ := Infinite.exists_notMem_finset threads
  exact ⟨thread, outside thread absent⟩

end Program

end Telekio.Interleave
