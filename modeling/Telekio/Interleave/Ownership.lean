import Telekio.Interleave.Program

/-!
# Keys owned by threads

A thread owns keys, for instance the records it has to remove. When a thread
only acquires keys that are absent and only their owner makes them absent,
owned keys are present and no key has two owners, whatever the interleaving.
-/

namespace Telekio.Interleave.Program

universe u v w x

variable {Shared : Type u} {Local : Type v} {Op : Type w} {Key : Type x}

/-- The discipline under which `owns` describes exclusive ownership of the
keys that `present` finds in the shared state. -/
structure Owning
    (program : Program Shared Local Op)
    (present : Shared → Key → Prop) (owns : Local → Key → Prop) :
    Prop where
  starts : ∀ first key, program.start first → ¬ owns first key
  acquires : ∀ world thread current op next key,
    program.Reachable world →
    world.threads thread = some current →
    program.act world.shared current op next →
    owns next key → owns current key ∨ ¬ present world.shared key
  keeps : ∀ world thread current op next key,
    program.Reachable world →
    world.threads thread = some current →
    program.act world.shared current op next →
    (owns current key → present world.shared key) →
    owns next key → present (program.apply op world.shared) key
  releases : ∀ world thread current op next key,
    program.Reachable world →
    world.threads thread = some current →
    program.act world.shared current op next →
    present world.shared key →
    ¬ present (program.apply op world.shared) key →
    owns current key

/-- Owned keys are present and have one owner. -/
def OwnedOnce
    (present : Shared → Key → Prop) (owns : Local → Key → Prop)
    (world : World Shared Local) : Prop :=
  (∀ thread held key, world.threads thread = some held →
    owns held key → present world.shared key) ∧
  ∀ thread other held found key, thread ≠ other →
    world.threads thread = some held →
    world.threads other = some found →
    owns held key → ¬ owns found key

variable {program : Program Shared Local Op}
variable {present : Shared → Key → Prop} {owns : Local → Key → Prop}

namespace Owning

theorem ownedOnce_fork (owning : program.Owning present owns)
    {world : World Shared Local} {thread : Nat} {first : Local}
    (starts : program.start first)
    (once : OwnedOnce present owns world) :
    OwnedOnce present owns (world.put world.shared thread first) := by
  obtain ⟨isPresent, exclusive⟩ := once
  constructor
  · intro other held key running owned
    rcases World.threads_put_cases running with ⟨_, rfl⟩ | ⟨_, old⟩
    · exact absurd owned (owning.starts _ key starts)
    · exact isPresent other held key old owned
  · intro left right held found key different leftRunning rightRunning
      owned
    rcases World.threads_put_cases leftRunning with
      ⟨_, rfl⟩ | ⟨_, leftOld⟩
    · exact absurd owned (owning.starts _ key starts)
    · rcases World.threads_put_cases rightRunning with
        ⟨_, rfl⟩ | ⟨_, rightOld⟩
      · exact owning.starts _ key starts
      · exact exclusive left right held found key different leftOld
          rightOld owned

theorem ownedOnce_move (owning : program.Owning present owns)
    {world : World Shared Local} {thread : Nat} {op : Op}
    {current next : Local}
    (reached : program.Reachable world)
    (running : world.threads thread = some current)
    (acts : program.act world.shared current op next)
    (once : OwnedOnce present owns world) :
    OwnedOnce present owns
      (world.put (program.apply op world.shared) thread next) := by
  obtain ⟨isPresent, exclusive⟩ := once
  have acquired : ∀ other found key, other ≠ thread →
      world.threads other = some found → owns next key →
      ¬ owns found key := by
    intro other found key different otherRunning owned otherOwns
    rcases owning.acquires world thread current op next key reached
        running acts owned with already | absent
    · exact exclusive thread other current found key
        (Ne.symm different) running otherRunning already otherOwns
    · exact absent (isPresent other found key otherRunning otherOwns)
  constructor
  · intro other held key otherRunning owned
    rcases World.threads_put_cases otherRunning with
      ⟨_, rfl⟩ | ⟨different, old⟩
    · exact owning.keeps world thread current op _ key reached running
        acts (isPresent thread current key running) owned
    · by_contra gone
      have mine : owns current key :=
        owning.releases world thread current op next key reached
          running acts (isPresent other held key old owned) gone
      exact exclusive thread other current held key
        (Ne.symm different) running old mine owned
  · intro left right held found key different leftRunning rightRunning
      owned
    rcases World.threads_put_cases leftRunning with
      ⟨rfl, rfl⟩ | ⟨leftDifferent, leftOld⟩
    · rcases World.threads_put_cases rightRunning with
        ⟨rfl, _⟩ | ⟨rightDifferent, rightOld⟩
      · exact absurd rfl different
      · exact acquired right found key rightDifferent rightOld owned
    · rcases World.threads_put_cases rightRunning with
        ⟨rfl, rfl⟩ | ⟨_, rightOld⟩
      · intro acquiredKey
        exact acquired left held key leftDifferent leftOld acquiredKey
          owned
      · exact exclusive left right held found key different leftOld
          rightOld owned

theorem ownedOnce (owning : program.Owning present owns)
    {world : World Shared Local}
    (reached : program.Reachable world) :
    OwnedOnce present owns world := by
  refine invariant (OwnedOnce present owns) ?_ ?_ reached
  · intro shared _
    constructor
    · intro thread held key running
      simp [World.quiet] at running
    · intro thread other held found key _ running
      simp [World.quiet] at running
  · intro before after reachedBefore step once
    cases step with
    | fork free starts =>
        exact owning.ownedOnce_fork starts once
    | move moves =>
        obtain ⟨running, acts⟩ := moves
        exact owning.ownedOnce_move reachedBefore running acts once

/-- A key that a thread owns is present. -/
theorem isPresent (owning : program.Owning present owns)
    {world : World Shared Local}
    (reached : program.Reachable world)
    {thread : Nat} {held : Local} {key : Key}
    (running : world.threads thread = some held)
    (owned : owns held key) :
    present world.shared key :=
  (owning.ownedOnce reached).1 thread held key running owned

/-- Two threads never own the same key. -/
theorem exclusive (owning : program.Owning present owns)
    {world : World Shared Local}
    (reached : program.Reachable world)
    {thread other : Nat} {held found : Local} {key : Key}
    (different : thread ≠ other)
    (running : world.threads thread = some held)
    (otherRunning : world.threads other = some found)
    (owned : owns held key) :
    ¬ owns found key :=
  (owning.ownedOnce reached).2 thread other held found key different
    running otherRunning owned

end Owning

/-- The converse discipline: who makes a key present owns it, and owners
give up a key only by making it absent. -/
structure Keeping
    (program : Program Shared Local Op)
    (present : Shared → Key → Prop) (owns : Local → Key → Prop) :
    Prop where
  absent : ∀ shared key, program.initial shared → ¬ present shared key
  introduces : ∀ world thread current op next key,
    program.Reachable world →
    world.threads thread = some current →
    program.act world.shared current op next →
    ¬ present world.shared key →
    present (program.apply op world.shared) key → owns next key
  retains : ∀ world thread current op next key,
    program.Reachable world →
    world.threads thread = some current →
    program.act world.shared current op next →
    owns current key →
    present (program.apply op world.shared) key → owns next key

/-- Every key that is present has an owner. -/
theorem Keeping.exists_owner
    (keeping : program.Keeping present owns)
    {world : World Shared Local}
    (reached : program.Reachable world) {key : Key}
    (found : present world.shared key) :
    ∃ thread held, world.threads thread = some held ∧ owns held key := by
  refine invariant
    (fun world => ∀ key, present world.shared key →
      ∃ thread held, world.threads thread = some held ∧ owns held key)
    ?_ ?_ reached key found
  · intro shared initial key found
    exact absurd found (keeping.absent shared key initial)
  · intro before after reachedBefore step owned key found
    cases step with
    | @fork thread first free starts =>
        obtain ⟨owner, held, running, owns⟩ := owned key found
        have different : owner ≠ thread := by
          rintro rfl
          rw [free] at running
          cases running
        refine ⟨owner, held, ?_, owns⟩
        rw [World.put_threads_of_ne _ _ _ different]
        exact running
    | @move after thread op moves =>
        obtain @⟨current, next, running, acts⟩ := moves
        by_cases already : present before.shared key
        · obtain ⟨owner, held, ownerRunning, owns⟩ := owned key already
          by_cases same : owner = thread
          · subst same
            rw [running] at ownerRunning
            cases ownerRunning
            exact ⟨owner, next, World.put_threads_self _ _ _ _,
              keeping.retains before owner current op next key
                reachedBefore running acts owns found⟩
          · refine ⟨owner, held, ?_, owns⟩
            rw [World.put_threads_of_ne _ _ _ same]
            exact ownerRunning
        · exact ⟨thread, next, World.put_threads_self _ _ _ _,
            keeping.introduces before thread current op next key
              reachedBefore running acts already found⟩

end Telekio.Interleave.Program
