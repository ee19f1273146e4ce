import Telekio.Interleave.Counting

/-!
# Counters of what the threads hold and the shared state keeps

As in a counting discipline, but what is counted may also rest in the shared
state: a thread may put down what it holds, and another may take it up.
-/

namespace Telekio.Interleave.Program

universe u v w

variable {Shared : Type u} {Local : Type v} {Op : Type w}

/-- The discipline under which `total` counts what rests in the shared state
and what the threads hold. -/
structure Balancing (program : Program Shared Local Op)
    (total rests : Shared → Nat) (holds : Local → Nat) : Prop where
  initially : ∀ shared, program.initial shared →
    total shared = rests shared
  starts : ∀ first, program.start first → holds first = 0
  moves : ∀ world thread current op next,
    program.Reachable world →
    world.threads thread = some current →
    program.act world.shared current op next →
    rests world.shared + holds current ≤ total world.shared →
    total (program.apply op world.shared) +
        (rests world.shared + holds current) =
      total world.shared +
        (rests (program.apply op world.shared) + holds next)

/-- The counter is what rests in the shared state and the sum over finitely
many threads that include all. -/
def Balanced (total rests : Shared → Nat) (holds : Local → Nat)
    (world : World Shared Local) : Prop :=
  ∃ threads : Finset Nat,
    (∀ thread, thread ∉ threads → world.threads thread = none) ∧
      total world.shared = rests world.shared +
        threads.sum fun thread => holding holds (world.threads thread)

variable {total rests : Shared → Nat} {holds : Local → Nat}

/-- Nothing that rests or is held exceeds the counter. -/
theorem le_of_balanced {world : World Shared Local}
    (balanced : Balanced total rests holds world)
    {thread : Nat} {found : Local}
    (running : world.threads thread = some found) :
    rests world.shared + holds found ≤ total world.shared := by
  obtain ⟨threads, outside, same⟩ := balanced
  have bound := @holding_le_sum _ _ holds _ _ outside thread
  rw [running] at bound
  rw [same]
  exact Nat.add_le_add_left bound _

/-- What rests does not exceed the counter. -/
theorem rests_le_of_balanced {world : World Shared Local}
    (balanced : Balanced total rests holds world) :
    rests world.shared ≤ total world.shared := by
  obtain ⟨threads, -, same⟩ := balanced
  rw [same]
  exact Nat.le_add_right _ _

/-- When no thread holds anything, the counter is what rests. -/
theorem eq_rests_of_balanced {world : World Shared Local}
    (balanced : Balanced total rests holds world)
    (idle : ∀ thread found, world.threads thread = some found →
      holds found = 0) :
    total world.shared = rests world.shared := by
  obtain ⟨threads, outside, same⟩ := balanced
  rw [same, Finset.sum_eq_zero, Nat.add_zero]
  intro thread _
  cases running : world.threads thread with
  | none => rfl
  | some found => exact idle thread found running

theorem balanced_put {world : World Shared Local} {shared : Shared}
    {thread : Nat} {next : Local}
    (moved : total shared +
        (rests world.shared + holding holds (world.threads thread)) =
      total world.shared + (rests shared + holds next))
    (balanced : Balanced total rests holds world) :
    Balanced total rests holds (world.put shared thread next) := by
  obtain ⟨threads, outside, same⟩ := balanced
  obtain ⟨wider, outsideAfter, changed⟩ :=
    @exists_sum_put _ _ holds world shared thread next _ outside
  refine ⟨wider, outsideAfter, ?_⟩
  rw [World.put_shared]
  omega

variable {program : Program Shared Local Op}

namespace Balancing

/-- In every reachable world the counter is exact. -/
theorem balanced (balancing : program.Balancing total rests holds)
    {world : World Shared Local} (reached : program.Reachable world) :
    Balanced total rests holds world := by
  refine invariant (Balanced total rests holds) ?_ ?_ reached
  · intro shared initial
    refine ⟨∅, fun _ _ => rfl, ?_⟩
    rw [Finset.sum_empty]
    exact balancing.initially shared initial
  · intro before after reachedBefore step held
    cases step with
    | fork free starts =>
        refine balanced_put ?_ held
        rw [free, balancing.starts _ starts]
        rfl
    | move moves =>
        obtain ⟨running, acts⟩ := moves
        refine balanced_put ?_ held
        rw [running]
        exact balancing.moves _ _ _ _ _ reachedBefore running acts
          (le_of_balanced held running)

end Balancing

end Telekio.Interleave.Program
