import Mathlib.Logic.Function.Basic
import Mathlib.Logic.Relation

/-!
# Programs run by any number of threads

A program has one shared state and threads that come and go. Every move of a
thread is atomic: it reads the shared state, names an operation, and the
operation is applied. The rules below reduce a statement about every
interleaving to statements about one move.
-/

namespace Telekio.Interleave

universe u v w

/-- The code that the threads of a system run. A thread begins in a local
state of `start`; `act shared current op next` lets it perform the atomic
operation `op`, whose effect on the shared state is `apply op`. -/
structure Program (Shared : Type u) (Local : Type v) (Op : Type w) where
  initial : Shared → Prop
  start : Local → Prop
  act : Shared → Local → Op → Local → Prop
  apply : Op → Shared → Shared

/-- A shared state with the threads that exist so far. -/
structure World (Shared : Type u) (Local : Type v) where
  shared : Shared
  threads : Nat → Option Local

namespace World

variable {Shared : Type u} {Local : Type v}

/-- A shared state that no thread has touched yet. -/
def quiet (shared : Shared) : World Shared Local :=
  ⟨shared, fun _ => none⟩

/-- Give the world a new shared state and one thread a new local state. -/
def put
    (world : World Shared Local) (shared : Shared)
    (thread : Nat) (next : Local) : World Shared Local :=
  ⟨shared, Function.update world.threads thread (some next)⟩

@[simp]
theorem put_shared
    (world : World Shared Local) (shared : Shared)
    (thread : Nat) (next : Local) :
    (world.put shared thread next).shared = shared :=
  rfl

@[simp]
theorem put_threads_self
    (world : World Shared Local) (shared : Shared)
    (thread : Nat) (next : Local) :
    (world.put shared thread next).threads thread = some next := by
  simp [put]

theorem put_threads_of_ne
    (world : World Shared Local) (shared : Shared)
    {thread other : Nat} (next : Local)
    (different : other ≠ thread) :
    (world.put shared thread next).threads other =
      world.threads other := by
  simp [put, different]

/-- A thread of an updated world is the updated one or an old one. -/
theorem threads_put_cases
    {world : World Shared Local} {shared : Shared}
    {thread other : Nat} {next found : Local}
    (running : (world.put shared thread next).threads other = some found) :
    (other = thread ∧ found = next) ∨
      (other ≠ thread ∧ world.threads other = some found) := by
  by_cases same : other = thread
  · subst same
    rw [put_threads_self] at running
    exact Or.inl ⟨rfl, (Option.some.inj running).symm⟩
  · rw [put_threads_of_ne world shared next same] at running
    exact Or.inr ⟨same, running⟩

end World

namespace Program

variable {Shared : Type u} {Local : Type v} {Op : Type w}
variable (program : Program Shared Local Op)

/-- The given thread performs the given operation. -/
inductive Moves (thread : Nat) (op : Op) :
    World Shared Local → World Shared Local → Prop
  | mk {world : World Shared Local} {current next : Local}
      (running : world.threads thread = some current)
      (acts : program.act world.shared current op next) :
      Moves thread op world
        (world.put (program.apply op world.shared) thread next)

/-- One step of the system: a thread begins, or a thread moves. -/
inductive Step : World Shared Local → World Shared Local → Prop
  | fork {world : World Shared Local} {thread : Nat} {first : Local}
      (free : world.threads thread = none)
      (starts : program.start first) :
      Step world (world.put world.shared thread first)
  | move {world next : World Shared Local} {thread : Nat} {op : Op}
      (moves : program.Moves thread op world next) :
      Step world next

/-- Any number of steps, in any interleaving. -/
def Steps : World Shared Local → World Shared Local → Prop :=
  Relation.ReflTransGen program.Step

/-- The worlds that some interleaving reaches. -/
def Reachable (world : World Shared Local) : Prop :=
  ∃ shared, program.initial shared ∧
    program.Steps (World.quiet shared) world

variable {program}

theorem Reachable.quiet {shared : Shared}
    (initial : program.initial shared) :
    program.Reachable (World.quiet shared) :=
  ⟨shared, initial, Relation.ReflTransGen.refl⟩

theorem Reachable.step {world next : World Shared Local}
    (reached : program.Reachable world)
    (step : program.Step world next) :
    program.Reachable next := by
  obtain ⟨shared, initial, steps⟩ := reached
  exact ⟨shared, initial, steps.tail step⟩

theorem Reachable.steps {world next : World Shared Local}
    (reached : program.Reachable world)
    (steps : program.Steps world next) :
    program.Reachable next := by
  obtain ⟨shared, initial, before⟩ := reached
  exact ⟨shared, initial, before.trans steps⟩

/-- A new thread begins. -/
theorem Reachable.fork {world : World Shared Local}
    (reached : program.Reachable world) (thread : Nat) {first : Local}
    (free : world.threads thread = none)
    (starts : program.start first) :
    program.Reachable (world.put world.shared thread first) :=
  reached.step (Step.fork free starts)

/-- A thread performs one operation. -/
theorem Reachable.move {world : World Shared Local}
    (reached : program.Reachable world) (thread : Nat)
    {current next : Local} {op : Op}
    (running : world.threads thread = some current)
    (acts : program.act world.shared current op next) :
    program.Reachable
      (world.put (program.apply op world.shared) thread next) :=
  reached.step (Step.move (Moves.mk running acts))

/-- What holds now and survives every step still holds after a run. -/
theorem steps_invariant (Inv : World Shared Local → Prop)
    {world next : World Shared Local}
    (reached : program.Reachable world)
    (steps : program.Steps world next)
    (now : Inv world)
    (survives : ∀ before after, program.Reachable before →
      program.Step before after → Inv before → Inv after) :
    Inv next := by
  induction steps with
  | refl =>
      exact now
  | tail earlier step inductionHypothesis =>
      exact survives _ _ (reached.steps earlier) step inductionHypothesis

/-- An assertion about the shared state that every move keeps still holds
after a run. -/
theorem shared_lasts (Inv : Shared → Prop)
    {world next : World Shared Local}
    (reached : program.Reachable world)
    (steps : program.Steps world next)
    (now : Inv world.shared)
    (keeps : ∀ world thread current op next,
      program.Reachable world →
      world.threads thread = some current →
      program.act world.shared current op next →
      Inv world.shared → Inv (program.apply op world.shared)) :
    Inv next.shared := by
  refine steps_invariant (fun world => Inv world.shared) reached steps
    now ?_
  intro before after reachedBefore step held
  cases step with
  | fork free starts =>
      exact held
  | move moves =>
      obtain ⟨running, acts⟩ := moves
      exact keeps _ _ _ _ _ reachedBefore running acts held

/-- An assertion about the local state of one thread that its own moves keep
still holds after a run. -/
theorem thread_lasts (Holds : Local → Prop)
    {world next : World Shared Local} {thread : Nat}
    (reached : program.Reachable world)
    (steps : program.Steps world next)
    (now : ∃ found, world.threads thread = some found ∧ Holds found)
    (own : ∀ world current op next,
      program.Reachable world →
      world.threads thread = some current →
      program.act world.shared current op next →
      Holds current → Holds next) :
    ∃ found, next.threads thread = some found ∧ Holds found := by
  refine steps_invariant
    (fun world => ∃ found,
      world.threads thread = some found ∧ Holds found)
    reached steps now ?_
  rintro before after reachedBefore step ⟨found, running, holds⟩
  cases step with
  | @fork other first free starts =>
      have different : thread ≠ other := by
        rintro rfl
        rw [free] at running
        cases running
      exact ⟨found,
        (World.put_threads_of_ne _ _ _ different).trans running, holds⟩
  | @move _ other op moves =>
      obtain @⟨current, next, moving, acts⟩ := moves
      by_cases same : thread = other
      · subst same
        rw [running] at moving
        cases moving
        exact ⟨next, World.put_threads_self _ _ _ _,
          own _ _ _ _ reachedBefore running acts holds⟩
      · exact ⟨found,
          (World.put_threads_of_ne _ _ _ same).trans running, holds⟩

/-- An assertion about whole worlds holds in every reachable world. -/
theorem invariant (Inv : World Shared Local → Prop)
    (initially : ∀ shared, program.initial shared →
      Inv (World.quiet shared))
    (survives : ∀ before after, program.Reachable before →
      program.Step before after → Inv before → Inv after)
    {world : World Shared Local}
    (reached : program.Reachable world) :
    Inv world := by
  obtain ⟨shared, initial, steps⟩ := reached
  exact steps_invariant Inv (Reachable.quiet initial) steps
    (initially shared initial) survives

/-- An assertion about the shared state alone holds in every reachable
world when every operation a thread may perform keeps it. -/
theorem shared_invariant (Inv : Shared → Prop)
    (initially : ∀ shared, program.initial shared → Inv shared)
    (keeps : ∀ world thread current op next,
      program.Reachable world →
      world.threads thread = some current →
      program.act world.shared current op next →
      Inv world.shared → Inv (program.apply op world.shared))
    {world : World Shared Local}
    (reached : program.Reachable world) :
    Inv world.shared := by
  obtain ⟨shared, initial, steps⟩ := reached
  exact shared_lasts Inv (Reachable.quiet initial) steps
    (initially shared initial) keeps

/-- An assertion about one thread and the shared state holds of every
thread: it holds when a thread begins, a thread's own moves keep it, and so
do the moves of every other thread. -/
theorem thread_invariant (Holds : Shared → Local → Prop)
    (starts : ∀ world first, program.Reachable world →
      program.start first → Holds world.shared first)
    (own : ∀ world thread current op next,
      program.Reachable world →
      world.threads thread = some current →
      program.act world.shared current op next →
      Holds world.shared current →
      Holds (program.apply op world.shared) next)
    (other : ∀ world thread bystander current op next held,
      program.Reachable world →
      bystander ≠ thread →
      world.threads thread = some current →
      world.threads bystander = some held →
      program.act world.shared current op next →
      Holds world.shared held →
      Holds (program.apply op world.shared) held)
    {world : World Shared Local}
    (reached : program.Reachable world)
    {thread : Nat} {found : Local}
    (running : world.threads thread = some found) :
    Holds world.shared found := by
  refine invariant
    (fun world => ∀ thread found,
      world.threads thread = some found → Holds world.shared found)
    ?_ ?_ reached thread found running
  · intro shared _ thread found running
    simp [World.quiet] at running
  · intro before after reachedBefore step held thread found running
    cases step with
    | fork free begins =>
        rcases World.threads_put_cases running with
          ⟨rfl, rfl⟩ | ⟨_, old⟩
        · exact starts before _ reachedBefore begins
        · exact held thread found old
    | move moves =>
        obtain ⟨moving, acts⟩ := moves
        rcases World.threads_put_cases running with
          ⟨rfl, rfl⟩ | ⟨different, old⟩
        · exact own before _ _ _ _ reachedBefore moving acts
            (held _ _ moving)
        · exact other before _ _ _ _ _ _ reachedBefore different moving
            old acts (held thread found old)

/-- The shared state is sound and every thread fits it. What a thread does
may rest on its own fitting. -/
theorem fits_invariant (Sound : Shared → Prop)
    (Fits : Shared → Local → Prop)
    (initially : ∀ shared, program.initial shared → Sound shared)
    (starts : ∀ shared first, Sound shared → program.start first →
      Fits shared first)
    (own : ∀ world thread current op next,
      program.Reachable world →
      world.threads thread = some current →
      program.act world.shared current op next →
      Sound world.shared → Fits world.shared current →
      Sound (program.apply op world.shared) ∧
        Fits (program.apply op world.shared) next)
    (other : ∀ world thread bystander current op next held,
      program.Reachable world →
      bystander ≠ thread →
      world.threads thread = some current →
      world.threads bystander = some held →
      program.act world.shared current op next →
      Sound world.shared → Fits world.shared current →
      Fits world.shared held →
      Fits (program.apply op world.shared) held)
    {world : World Shared Local}
    (reached : program.Reachable world) :
    Sound world.shared ∧ ∀ thread found,
      world.threads thread = some found → Fits world.shared found := by
  refine invariant
    (fun world => Sound world.shared ∧ ∀ thread found,
      world.threads thread = some found → Fits world.shared found)
    ?_ ?_ reached
  · intro shared initial
    refine ⟨initially shared initial, fun thread found running => ?_⟩
    simp [World.quiet] at running
  · intro before after reachedBefore step ⟨sound, fits⟩
    cases step with
    | fork free begins =>
        refine ⟨sound, fun thread found running => ?_⟩
        rcases World.threads_put_cases running with
          ⟨rfl, rfl⟩ | ⟨_, old⟩
        · exact starts _ _ sound begins
        · exact fits thread found old
    | move moves =>
        obtain ⟨moving, acts⟩ := moves
        have here := fits _ _ moving
        obtain ⟨soundAfter, fitsAfter⟩ :=
          own before _ _ _ _ reachedBefore moving acts sound here
        refine ⟨soundAfter, fun thread found running => ?_⟩
        rcases World.threads_put_cases running with
          ⟨rfl, rfl⟩ | ⟨different, old⟩
        · exact fitsAfter
        · exact other before _ _ _ _ _ _ reachedBefore different moving
            old acts sound here (fits thread found old)

/-- An assertion about the local state of a thread alone. -/
theorem local_invariant (Holds : Local → Prop)
    (starts : ∀ first, program.start first → Holds first)
    (own : ∀ world thread current op next,
      program.Reachable world →
      world.threads thread = some current →
      program.act world.shared current op next →
      Holds current → Holds next)
    {world : World Shared Local}
    (reached : program.Reachable world)
    {thread : Nat} {found : Local}
    (running : world.threads thread = some found) :
    Holds found :=
  thread_invariant (fun _ held => Holds held)
    (fun _ first _ begins => starts first begins)
    own (fun _ _ _ _ _ _ _ _ _ _ _ _ held => held)
    reached running

end Program

end Telekio.Interleave
