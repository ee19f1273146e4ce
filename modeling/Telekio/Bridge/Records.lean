import Telekio.Bridge.System

/-!
# Records and their owners

Every task record belongs to one tracked task and every activity record to one
activity or callback cleanup. A record that its owner has removed is gone for
good, and an owner that is idle after the cutoff stays idle.
-/

namespace Telekio.Bridge

open Telekio.Interleave
open Telekio.Owner

variable {world : World}

theorem idle_iff {shared : Shared} :
    shared.owner.idle = true ↔
      (∀ id, shared.tasks.lookup id = none) ∧
        ∀ id, shared.activities.lookup id = none := by
  rw [OwnerState.idle, Bool.and_eq_true, Table.isEmpty_iff,
    Table.isEmpty_iff]

/-- Whoever detaches finds the owner cut off and its tables empty. -/
theorem idle_of_detach {closed : RuntimeRef → Bool}
    {shut : ResourceRef → Bool} {owner : OwnerState}
    (succeeded : (owner.detach closed shut).2.isOk = true) :
    owner.accepting = false ∧
      (∀ id, owner.state.tasks.lookup id = none) ∧
      ∀ id, owner.state.activities.lookup id = none := by
  by_cases attached : owner.isAccepting || !Table.isEmpty owner.state.tasks ||
      !Table.isEmpty owner.state.activities
  · simp [OwnerState.detach, attached, Except.isOk, Except.toBool]
      at succeeded
  · simp only [Bool.or_eq_true, Bool.not_eq_true', not_or,
      Bool.not_eq_false, Bool.not_eq_true] at attached
    obtain ⟨⟨refusing, tasks⟩, activities⟩ := attached
    exact ⟨refusing, Table.isEmpty_iff.mp tasks,
      Table.isEmpty_iff.mp activities⟩

/-- After the cutoff no task record appears. -/
theorem task_of_apply {shared : Shared} {op : Op} {id : Nat}
    (refusing : shared.accepting = false)
    (present : (op.apply shared).tasks.lookup id ≠ none) :
    shared.tasks.lookup id ≠ none := by
  obtain ⟨slot, found⟩ := Option.ne_none_iff_exists'.mp present
  rcases (ownerChange_apply op shared).task_after found with
    old | ⟨_, _, running, _⟩ | ⟨_, _, _, old⟩
  · exact Option.ne_none_iff_exists'.mpr ⟨slot, old⟩
  · exact absurd (refusing.symm.trans running) (by decide)
  · exact Option.isSome_iff_ne_none.mp old

/-- After the cutoff no activity record appears. -/
theorem activity_of_apply {shared : Shared} {op : Op} {id : Nat}
    (refusing : shared.accepting = false)
    (present : (op.apply shared).activities.lookup id ≠ none) :
    shared.activities.lookup id ≠ none := by
  obtain ⟨slot, found⟩ := Option.ne_none_iff_exists'.mp present
  rcases (ownerChange_apply op shared).activity_after found with
    old | ⟨_, running, _⟩ | ⟨_, _, _, running, _⟩
  · exact Option.ne_none_iff_exists'.mpr ⟨slot, old⟩
  · exact absurd (refusing.symm.trans running) (by decide)
  · exact absurd (refusing.symm.trans running) (by decide)

theorem idle_apply {shared : Shared} {op : Op}
    (refusing : shared.accepting = false)
    (idle : shared.owner.idle = true) :
    (op.apply shared).owner.idle = true := by
  obtain ⟨tasks, activities⟩ := idle_iff.mp idle
  refine idle_iff.mpr ⟨?_, ?_⟩
  · intro id
    by_contra present
    exact task_of_apply refusing present (tasks id)
  · intro id
    by_contra present
    exact activity_of_apply refusing present (activities id)

/-- The id of a cleanup, before and after its drop. -/
def Cleanup.id? : Cleanup → Option Nat
  | .absent => none
  | .armed id => some id
  | .removed id => some id
  | .dropped id => some id

/-- A removed activity never comes back. -/
theorem activity_of_removed (reached : program.Reachable world)
    {thread : Nat} {found : Thread} {id : Nat}
    (running : world.threads thread = some found)
    (removed : found.cleanup = .removed id ∨
      found.cleanup = .dropped id) :
    id < world.shared.nextId ∧
      world.shared.activities.lookup id = none := by
  have absent_apply : ∀ (world : World) (op : Op),
      id < world.shared.nextId ∧
        world.shared.activities.lookup id = none →
      id < (op.apply world.shared).nextId ∧
        (op.apply world.shared).activities.lookup id = none := by
    rintro world op ⟨bounded, absent⟩
    have change := ownerChange_apply op world.shared
    refine ⟨Nat.lt_of_lt_of_le bounded change.nextId_le, ?_⟩
    by_contra present
    obtain ⟨slot, found⟩ := Option.ne_none_iff_exists'.mp present
    rcases change.activity_after found with
      old | ⟨_, _, same⟩ | ⟨_, _, _, _, old⟩
    · exact absurd (absent.symm.trans old) (by simp)
    · exact absurd same (Nat.ne_of_lt bounded)
    · rw [absent] at old
      cases old
  refine Program.thread_invariant
    (fun shared held =>
      held.cleanup = .removed id ∨ held.cleanup = .dropped id →
      id < shared.nextId ∧ shared.activities.lookup id = none)
    ?_ ?_ ?_ reached running removed
  · intro world first _ starts removed
    cases starts <;>
      simp [Thread.cleanup, Entry.start, BlockOn.start, Build.start,
        Defer.start, Shutdown.start] at removed
  · intro world thread current op next reached running acts before
      removed
    have step := Thread.cleanupStep_of_acts acts
    have owned : current.cleanup = .armed id →
        (world.shared.activities.lookup id).isSome :=
      activityOwning.isPresent reached running
    generalize current.cleanup = held at step before owned
    generalize next.cleanup = after at step removed
    cases step with
    | same keeps => exact absent_apply world op (before removed)
    | activity admitted => simp at removed
    | callback admitted => simp at removed
    | drop drops =>
        cases drops with
        | remove armed =>
            obtain rfl : _ = id := by simpa using removed
            obtain ⟨slot, found⟩ :=
              Option.isSome_iff_exists.mp (owned armed)
            refine ⟨activity_lt_nextId reached found, ?_⟩
            simp [program, Op.apply, Op.owner, Shared.activities,
              OwnerState.removeActivity]
        | notify held =>
            obtain rfl : _ = id := by simpa using removed
            exact absent_apply world _ (before (Or.inl held))
  · intro world thread bystander current op next held _ _ _ _ _ before
      removed
    exact absent_apply world op (before removed)

/-- The activity of a cleanup that is gone has no record. -/
theorem activity_of_gone (reached : program.Reachable world)
    {thread id : Nat} {found : Thread}
    (running : world.threads thread = some found)
    (gone : found.cleanup.gone)
    (temporary : found.cleanup.id? = some id) :
    world.shared.activities.lookup id = none := by
  suffices dropped : found.cleanup = .dropped id from
    (activity_of_removed reached running (Or.inr dropped)).2
  cases held : found.cleanup with
  | absent => simp [held, Cleanup.id?] at temporary
  | armed other => simp [held, Cleanup.gone] at gone
  | removed other => simp [held, Cleanup.gone] at gone
  | dropped other =>
      rw [held] at temporary
      exact congrArg Cleanup.dropped (Option.some.inj temporary)

namespace Thread

variable {shared : Shared} {current next : Thread} {op : Op}

theorem taskRecord_eq_some {thread : Thread} {id : Nat} :
    thread.taskRecord = some id ↔
      ∃ spawn : Spawn, thread = .spawn spawn ∧
        spawn.cleanup = .armed ∧ spawn.id = id := by
  cases thread <;> simp [taskRecord, Spawn.record]

/-- A thread owns a task record from its reservation to its removal. -/
theorem taskRecord_of_acts {id : Nat}
    (acts : Acts shared current op next)
    (owned : next.taskRecord = some id) :
    (current.taskRecord = some id ∧ ∀ key, op ≠ .removeTask key) ∨
      (op = .reserveTask id ∧
        (shared.owner.reserveTask id).2 = .ok ()) := by
  cases acts with
  | spawn acts =>
      cases acts <;> simp_all [taskRecord, Spawn.record]
  | _ => cases owned

theorem taskRecord_keeps {id : Nat}
    (acts : Acts shared current op next)
    (owned : current.taskRecord = some id) :
    next.taskRecord = some id ∨ op = .removeTask id := by
  cases acts with
  | spawn acts =>
      cases acts <;> simp_all [taskRecord, Spawn.record]
  | _ => cases owned

/-- A reservation either succeeds or leaves everything as it was. -/
theorem reserveTask_of_acts {id : Nat}
    (acts : Acts shared current (.reserveTask id) next) :
    next.taskRecord = some id ∨
      (shared.owner.reserveTask id).1 = shared.owner := by
  obtain ⟨spawn, rfl⟩ := performs_of_acts acts
  cases acts with
  | spawn acts =>
      cases acts with
      | reserve called accepted =>
          exact Or.inl (by simp [taskRecord, Spawn.record])
      | refuse called refused =>
          exact Or.inr (OwnerState.reserveTask_eq_error refused)

end Thread

/-- The task records in the owner are owned by tracked tasks. -/
theorem taskOwning : program.Owning
    (fun shared id => (shared.tasks.lookup id).isSome)
    (fun thread id => thread.taskRecord = some id) where
  starts := by
    intro first id starts
    cases starts <;> simp [Thread.taskRecord, Spawn.record, Spawn.start]
  acquires := by
    intro world thread current op next id _ _ acts owned
    rcases Thread.taskRecord_of_acts acts owned with
      ⟨old, _⟩ | ⟨rfl, accepted⟩
    · exact Or.inl old
    · have absent := (OwnerState.reserveTask_eq_ok accepted).2.1
      rw [← AList.lookup_eq_none] at absent
      exact Or.inr (by simp [absent])
  keeps := by
    intro world thread current op next id _ _ acts present owned
    rcases Thread.taskRecord_of_acts acts owned with
      ⟨old, kept⟩ | ⟨rfl, accepted⟩
    · obtain ⟨slot, found⟩ := Option.isSome_iff_exists.mp (present old)
      rcases (ownerChange_apply op world.shared).task_before found with
        same | ⟨removed, _⟩ | ⟨handle, _, registered⟩
      · exact Option.isSome_iff_exists.mpr ⟨_, same⟩
      · exact absurd removed (kept id)
      · exact Option.isSome_iff_exists.mpr ⟨_, registered⟩
    · change ((world.shared.owner.reserveTask id).1.state.tasks.lookup
        id).isSome = true
      rw [(OwnerState.reserveTask_eq_ok accepted).2.2]
      simp [OwnerState.setTasks]
  releases := by
    intro world thread current op next id _ _ acts present gone
    obtain ⟨slot, found⟩ := Option.isSome_iff_exists.mp present
    rcases (ownerChange_apply op world.shared).task_before found with
      kept | ⟨rfl, _⟩ | ⟨handle, _, registered⟩
    · exact absurd (Option.isSome_iff_exists.mpr ⟨_, kept⟩) gone
    · obtain ⟨spawn, after, rfl, _, same, armed, _⟩ :=
        Thread.removeTask_of_acts acts
      exact Thread.taskRecord_eq_some.mpr ⟨spawn, rfl, armed, same⟩
    · exact absurd (Option.isSome_iff_exists.mpr ⟨_, registered⟩) gone

theorem taskKeeping : program.Keeping
    (fun shared id => (shared.tasks.lookup id).isSome)
    (fun thread id => thread.taskRecord = some id) where
  absent := by
    rintro shared id rfl
    simp [Shared.fresh, Shared.tasks, ownerState]
  introduces := by
    intro world thread current op next id _ _ acts absent present
    obtain ⟨slot, found⟩ := Option.isSome_iff_exists.mp present
    rcases (ownerChange_apply op world.shared).task_after found with
      old | ⟨rfl, _⟩ | ⟨_, _, _, old⟩
    · exact absurd (Option.isSome_iff_exists.mpr ⟨_, old⟩) absent
    · rcases Thread.reserveTask_of_acts acts with owned | same
      · exact owned
      · refine absurd ?_ absent
        change ((world.shared.owner.reserveTask id).1.state.tasks.lookup
          id).isSome = true at present
        rwa [same] at present
    · exact absurd old absent
  retains := by
    intro world thread current op next id _ _ acts owned present
    rcases Thread.taskRecord_keeps acts owned with kept | rfl
    · exact kept
    · simp [program, Op.apply, Op.owner, Shared.tasks,
        OwnerState.removeTask, OwnerState.setTasks] at present

/-- The host has left a task with this id behind: its spawn panicked after the
task was in the scheduler, and nothing has dropped the task since. -/
def LeftBehind (world : World) (id : Nat) : Prop :=
  ∃ thread spawn, world.threads thread = some (.spawn spawn) ∧
    spawn.id = id ∧ spawn.leftBehind

/-- The thread is inside an entry, blocks on a future, or builds a
runtime. -/
def Thread.insideActivity : Thread → Prop
  | .entry call => ∃ wakers, call.stage = .inside wakers
  | .blockOn call => ∃ future, call.stage = .inside future
  | .build call =>
      call.stage = .inside ∨ (∃ runtime, call.stage = .built runtime) ∨
        (∃ runtime, call.stage = .refused runtime) ∨
          ∃ runtime id, call.stage = .registered runtime id
  | _ => False

/-- The record of the activity stays armed inside the call. -/
theorem armed_of_insideActivity (reached : program.Reachable world)
    {thread : Nat} {found : Thread}
    (running : world.threads thread = some found)
    (inside : found.insideActivity) : ∃ id, found.cleanup = .armed id := by
  refine Program.local_invariant
    (fun held => held.insideActivity → ∃ id, held.cleanup = .armed id)
    ?_ ?_ reached running inside
  · intro first starts inside
    cases starts <;> simp [Thread.insideActivity, Entry.start,
      BlockOn.start, Build.start] at inside
  · intro world thread current op next _ _ acts earlier inside
    cases acts with
    | entry acts =>
        cases acts <;>
          grind -ring -linarith [Thread.insideActivity, Thread.cleanup]
    | blockOn acts =>
        cases acts <;>
          grind -ring -linarith [Thread.insideActivity, Thread.cleanup]
    | build acts =>
        cases acts <;>
          grind -ring -linarith [Thread.insideActivity, Thread.cleanup]
    | _ => exact inside.elim

/-- An idle owner has no call inside an activity. -/
theorem not_insideActivity_of_idle (reached : program.Reachable world)
    (idle : world.shared.owner.idle = true)
    {thread : Nat} {found : Thread}
    (running : world.threads thread = some found) :
    ¬ found.insideActivity := by
  intro inside
  obtain ⟨id, armed⟩ := armed_of_insideActivity reached running inside
  have present := activity_of_armed reached running armed
  simp [(idle_iff.mp idle).2 id] at present

end Telekio.Bridge
