import Telekio.Interleave.Program

/-!
# Programs over programs

`restrict` keeps the runs all of whose moves are allowed. A `Layer` is a
program with more state, more threads and more steps than the one below it;
what the lower program guarantees holds of the lower part of its worlds.
-/

namespace Telekio.Interleave.Program

universe u v w u' v' w'

variable {Shared : Type u} {Local : Type v} {Op : Type w}
variable {Below : Type u'} {LocalBelow : Type v'} {OpBelow : Type w'}

/-- The runs in which every move is allowed. -/
def restrict (program : Program Shared Local Op)
    (allowed : Shared → Op → Prop) : Program Shared Local Op :=
  { program with
    act := fun shared current op next =>
      program.act shared current op next ∧ allowed shared op }

theorem reachable_of_restrict {program : Program Shared Local Op}
    {allowed : Shared → Op → Prop} {world : World Shared Local}
    (reached : (program.restrict allowed).Reachable world) :
    program.Reachable world := by
  refine @invariant _ _ _ (program.restrict allowed)
    (fun world => program.Reachable world)
    (fun shared initial => Reachable.quiet initial) ?_ _ reached
  intro before after _ step held
  cases step with
  | fork free starts => exact held.fork _ free starts
  | move moves =>
      obtain ⟨running, acts⟩ := moves
      exact held.move _ running (And.left acts)

/-- The lower part of a world; `down` tells which threads have one. -/
def lower (shared : Shared → Below) (down : Local → Option LocalBelow)
    (world : World Shared Local) : World Below LocalBelow :=
  ⟨shared world.shared, fun thread => (world.threads thread).bind down⟩

/-- Every step is one step of the lower program, or none. -/
structure Layer (program : Program Shared Local Op)
    (below : Program Below LocalBelow OpBelow)
    (shared : Shared → Below) (down : Local → Option LocalBelow) :
    Prop where
  initially : ∀ state, program.initial state →
    below.initial (shared state)
  starts : ∀ first found, program.start first →
    down first = some found → below.start found
  moves : ∀ state current op next, program.act state current op next →
    (∃ found opBelow after, down current = some found ∧
      down next = some after ∧
      below.act (shared state) found opBelow after ∧
      shared (program.apply op state) =
        below.apply opBelow (shared state)) ∨
    (down next = down current ∧
      shared (program.apply op state) = shared state)

variable {program : Program Shared Local Op}
variable {below : Program Below LocalBelow OpBelow}
variable {shared : Shared → Below} {down : Local → Option LocalBelow}

theorem lower_put {world : World Shared Local} {state : Shared}
    {thread : Nat} {next : Local} {after : LocalBelow}
    (has : down next = some after) :
    lower shared down (world.put state thread next) =
      (lower shared down world).put (shared state) thread after := by
  refine congrArg (World.mk _) (funext fun other => ?_)
  by_cases same : other = thread
  · subst same
    simp [World.put, has]
  · simp [World.put, lower, same]

theorem lower_put_of_same {world : World Shared Local} {state : Shared}
    {thread : Nat} {next : Local}
    (same : down next = (world.threads thread).bind down)
    (kept : shared state = shared world.shared) :
    lower shared down (world.put state thread next) =
      lower shared down world := by
  refine congrArg₂ World.mk kept (funext fun other => ?_)
  by_cases own : other = thread
  · subst own
    simp [World.put, same]
  · simp [World.put, own]

/-- The lower part of a run is a run of the lower program. -/
theorem Layer.reachable_lower
    (layer : program.Layer below shared down)
    {world : World Shared Local} (reached : program.Reachable world) :
    below.Reachable (lower shared down world) := by
  refine @invariant _ _ _ program
    (fun world => below.Reachable (lower shared down world))
    (fun state initial => Reachable.quiet (layer.initially state initial))
    ?_ _ reached
  intro before after _ step held
  cases step with
  | @fork thread first free starts =>
      have unused : (lower shared down before).threads thread = none := by
        simp [lower, free]
      cases has : down first with
      | none =>
          rwa [lower_put_of_same (by simp [has, free]) rfl]
      | some found =>
          rw [lower_put has]
          exact held.fork thread unused (layer.starts first found starts has)
  | move moves =>
      obtain ⟨running, acts⟩ := moves
      rcases layer.moves _ _ _ _ acts with
        ⟨found, opBelow, after, has, hasNext, actsBelow, applied⟩ |
          ⟨same, kept⟩
      · rw [lower_put hasNext, applied]
        exact held.move _ (by simp [lower, running, has]) actsBelow
      · rwa [lower_put_of_same (by simp [same, running]) kept]

end Telekio.Interleave.Program
