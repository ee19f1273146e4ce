import Telekio.Interleave.Ownership
import Telekio.Bridge.Spawn
import Telekio.Bridge.Shutdown

/-!
# The system of one owner

Every thread of the system is one call that crosses the bridge, with the
object it leaves behind. The program lets any number of them run in any
interleaving, from the moment the owner is made.
-/

namespace Telekio.Bridge

open Telekio.Interleave
open Telekio.Owner

inductive Thread where
  | spawn (spawn : Spawn)
  | entry (entry : Entry)
  | blockOn (call : BlockOn)
  | build (build : Build)
  | defer (defer : Defer)
  | resource (resource : Resource)
  | abort (abort : Abort)
  | handle (handle : Handle)
  | shutdown (run : Shutdown)
  | detach (detach : Detach)

namespace Thread

inductive Starts : Thread → Prop
  | spawn (kind : SpawnKind) (id : Nat) :
      Starts (.spawn (Spawn.start kind id))
  | entry (kind : EntryKind) : Starts (.entry (Entry.start kind))
  | blockOn : Starts (.blockOn BlockOn.start)
  | build (thread : Nat) : Starts (.build (Build.start thread))
  | defer (address waker : Nat) :
      Starts (.defer (Defer.start address waker))
  | resource : Starts (.resource .called)
  | abort (id : Nat) : Starts (.abort (.called id))
  | handle (context : ContextRef) : Starts (.handle ⟨context⟩)
  | shutdown : Starts (.shutdown Shutdown.start)
  | detach : Starts (.detach .called)

inductive Acts (shared : Shared) : Thread → Op → Thread → Prop
  | spawn {spawn next : Spawn} {op : Op}
      (acts : Spawn.Acts shared spawn op next) :
      Acts shared (.spawn spawn) op (.spawn next)
  | entry {entry next : Entry} {op : Op}
      (acts : Entry.Acts shared entry op next) :
      Acts shared (.entry entry) op (.entry next)
  | blockOn {call next : BlockOn} {op : Op}
      (acts : BlockOn.Acts shared call op next) :
      Acts shared (.blockOn call) op (.blockOn next)
  | build {build next : Build} {op : Op}
      (acts : Build.Acts shared build op next) :
      Acts shared (.build build) op (.build next)
  | defer {defer next : Defer} {op : Op}
      (acts : Defer.Acts shared defer op next) :
      Acts shared (.defer defer) op (.defer next)
  | resource {resource next : Resource} {op : Op}
      (acts : Resource.Acts shared resource op next) :
      Acts shared (.resource resource) op (.resource next)
  | abort {abort next : Abort} {op : Op}
      (acts : Abort.Acts shared abort op next) :
      Acts shared (.abort abort) op (.abort next)
  | handle {handle next : Handle} {op : Op}
      (acts : Handle.Acts shared handle op next) :
      Acts shared (.handle handle) op (.handle next)
  | shutdown {run next : Shutdown} {op : Op}
      (acts : Shutdown.Acts shared run op next) :
      Acts shared (.shutdown run) op (.shutdown next)
  | detach {detach next : Detach} {op : Op}
      (acts : Detach.Acts shared detach op next) :
      Acts shared (.detach detach) op (.detach next)

/-- The `Activity` or `CallbackCleanup` of a thread. -/
def cleanup : Thread → Cleanup
  | .entry call => call.activity
  | .blockOn call => call.activity
  | .build call => call.activity
  | .defer call => call.activity
  | .shutdown run => run.cleanup
  | _ => .absent

/-- The task record that a thread has to remove. -/
def taskRecord : Thread → Option Nat
  | .spawn call => call.record
  | _ => none

/-- The thread has removed a record and has yet to notify. -/
def departing : Thread → Prop
  | .spawn call => call.departing
  | thread => thread.cleanup.departing

end Thread

/-- The code around one owner. -/
def program : Program Shared Thread Op where
  initial := fun shared => shared = Shared.fresh
  start := Thread.Starts
  act := Thread.Acts
  apply := Op.apply

abbrev World :=
  Interleave.World Shared Thread

theorem reachable_fresh : program.Reachable (World.quiet Shared.fresh) :=
  Program.Reachable.quiet rfl

variable {shared : Shared} {current next : Thread} {op : Op}

namespace Thread

/-- The calls whose code contains the operation. -/
def performs (thread : Thread) (op : Op) : Prop :=
  match op with
  | .activity =>
      (∃ call, thread = .entry call) ∨ (∃ call, thread = .blockOn call) ∨
        ∃ call, thread = .build call
  | .callback _ =>
      (∃ call, thread = .entry call) ∨ (∃ call, thread = .defer call) ∨
        ∃ run, thread = .shutdown run
  | .updateActivityWaker _ _ => ∃ call, thread = .blockOn call
  | .reserveTask _ => ∃ call, thread = .spawn call
  | .registerTask _ _ => ∃ call, thread = .spawn call
  | .removeTask _ => ∃ call, thread = .spawn call
  | .newRuntime _ _ => ∃ call, thread = .build call
  | .observeWorkers _ => ∃ call, thread = .entry call
  | .registerResource _ => ∃ call, thread = .resource call
  | .newDeferred _ _ => ∃ call, thread = .defer call
  | .wakeDeferred _ => ∃ call, thread = .defer call
  | .installDeferred _ _ => ∃ call, thread = .defer call
  | .dropDeferred _ => ∃ call, thread = .defer call
  | .cutoff => ∃ run, thread = .shutdown run
  | .takeValue _ => ∃ run, thread = .shutdown run
  | _ => True

theorem performs_of_drops {cleanup after : Cleanup}
    (drops : Cleanup.Drops cleanup op after) : current.performs op := by
  cases drops <;> trivial

/-- The case analysis of all calls, once for every operation. -/
theorem performs_of_acts (acts : Acts shared current op next) :
    current.performs op := by
  cases acts with
  | spawn acts => cases acts <;> simp [performs]
  | entry acts =>
      cases acts with
      | drop leaving drops => exact performs_of_drops drops
      | _ => simp [performs]
  | blockOn acts =>
      cases acts with
      | drop leaving drops => exact performs_of_drops drops
      | _ => simp [performs]
  | build acts =>
      cases acts with
      | drop leaving drops => exact performs_of_drops drops
      | _ => simp [performs]
  | defer acts =>
      cases acts with
      | drop dropping drops => exact performs_of_drops drops
      | _ => simp [performs]
  | resource acts => cases acts <;> simp [performs]
  | abort acts => cases acts <;> trivial
  | handle acts => cases acts <;> trivial
  | shutdown acts =>
      cases acts with
      | drop dropping drops => exact performs_of_drops drops
      | _ => simp [performs]
  | detach acts => cases acts; trivial

theorem fresh_of_drops {cleanup after : Cleanup}
    (drops : Cleanup.Drops cleanup op after) : op.Fresh shared := by
  cases drops <;> trivial

theorem fresh_of_acts (acts : Acts shared current op next) :
    op.Fresh shared := by
  cases acts with
  | spawn acts => cases acts <;> trivial
  | entry acts =>
      cases acts with
      | drop leaving drops => exact fresh_of_drops drops
      | _ => trivial
  | blockOn acts =>
      cases acts with
      | drop leaving drops => exact fresh_of_drops drops
      | _ => trivial
  | build acts =>
      cases acts with
      | drop leaving drops => exact fresh_of_drops drops
      | buildRuntime runtime kind inside flavor fresh => exact fresh
      | exportHandle context registered fresh => exact fresh
      | _ => trivial
  | defer acts =>
      cases acts with
      | drop dropping drops => exact fresh_of_drops drops
      | new called fresh => exact fresh
      | _ => trivial
  | resource acts => cases acts <;> trivial
  | abort acts => cases acts <;> trivial
  | handle acts => cases acts <;> trivial
  | shutdown acts =>
      cases acts with
      | drop dropping drops => exact fresh_of_drops drops
      | _ => trivial
  | detach acts => cases acts; trivial

/-- What one step does to the cleanup of a thread. -/
inductive CleanupStep (shared : Shared) : Cleanup → Op → Cleanup → Prop
  | same {cleanup : Cleanup} {op : Op}
      (keeps : ∀ id, op ≠ .removeActivity id) :
      CleanupStep shared cleanup op cleanup
  | activity {cleanup : Cleanup} {id : Nat}
      (admitted : shared.owner.activity.2 = .ok id) :
      CleanupStep shared cleanup .activity (.armed id)
  | callback {cleanup : Cleanup} {id : Nat} {waker : Waker}
      (admitted : (shared.owner.callback waker).2 = some id) :
      CleanupStep shared cleanup (.callback waker) (.armed id)
  | drop {cleanup after : Cleanup} {op : Op}
      (drops : Cleanup.Drops cleanup op after) :
      CleanupStep shared cleanup op after

theorem cleanupStep_of_acts (acts : Acts shared current op next) :
    CleanupStep shared current.cleanup op next.cleanup := by
  cases acts with
  | spawn acts => cases acts <;> exact .same nofun
  | entry acts =>
      cases acts with
      | activity isActivity called admitted => exact .activity admitted
      | callback isCallback called admitted => exact .callback admitted
      | drop leaving drops => exact .drop drops
      | _ => exact .same nofun
  | blockOn acts =>
      cases acts with
      | activity called admitted => exact .activity admitted
      | drop leaving drops => exact .drop drops
      | _ => exact .same nofun
  | build acts =>
      cases acts with
      | activity called admitted => exact .activity admitted
      | drop leaving drops => exact .drop drops
      | _ => exact .same nofun
  | defer acts =>
      cases acts with
      | callback created admitted => exact .callback admitted
      | drop dropping drops => exact .drop drops
      | _ => exact .same nofun
  | resource acts => cases acts <;> exact .same nofun
  | abort acts => cases acts <;> exact .same nofun
  | handle acts => cases acts <;> exact .same nofun
  | shutdown acts =>
      cases acts with
      | callback called admitted => exact .callback admitted
      | drop dropping drops => exact .drop drops
      | _ => exact .same nofun
  | detach acts => cases acts; exact .same nofun

/-- Only the drop of its cleanup removes an activity record. -/
theorem removeActivity_of_acts {id : Nat}
    (acts : Acts shared current (.removeActivity id) next) :
    current.cleanup = .armed id ∧ next.cleanup = .removed id := by
  have step := cleanupStep_of_acts acts
  generalize current.cleanup = before, next.cleanup = after at step
  cases step with
  | same keeps => exact absurd rfl (keeps id)
  | drop drops =>
      cases drops with
      | remove armed => exact ⟨armed, rfl⟩

/-- Only a poll of its `GuestFuture` stores a waker in an activity. -/
theorem updateActivityWaker_of_acts {id : Nat} {waker : Waker}
    (acts : Acts shared current (.updateActivityWaker id waker) next) :
    ∃ call : BlockOn, current = .blockOn call ∧
      call.activity = .armed id := by
  obtain ⟨call, rfl⟩ := performs_of_acts acts
  refine ⟨call, rfl, ?_⟩
  cases acts with
  | blockOn acts =>
      cases acts with
      | poll waker armed idle updated => exact armed
      | refusePoll waker armed idle refused => exact armed
      | drop leaving drops => cases drops

/-- Only the drop of its cleanup removes a task record. -/
theorem removeTask_of_acts {id : Nat}
    (acts : Acts shared current (.removeTask id) next) :
    ∃ spawn after : Spawn, current = .spawn spawn ∧
      next = .spawn after ∧ spawn.id = id ∧
      spawn.cleanup = .armed ∧ after.cleanup = .removed := by
  obtain ⟨spawn, rfl⟩ := performs_of_acts acts
  cases acts with
  | spawn acts =>
      cases acts with
      | removeTask released armed =>
          exact ⟨spawn, _, rfl, rfl, rfl, armed, rfl⟩

end Thread

/-! ## Reachable worlds -/

variable {world : World}

/-- What the stages of a call say about each other. -/
def Thread.Ordered : Thread → Prop
  | .spawn call => call.Ordered
  | .defer call => call.Ordered
  | .shutdown run => run.Ordered
  | _ => True

theorem ordered_of_reachable (reached : program.Reachable world)
    {thread : Nat} {found : Thread}
    (running : world.threads thread = some found) : found.Ordered := by
  refine Program.local_invariant Thread.Ordered ?_ ?_ reached running
  · intro first starts
    cases starts with
    | spawn kind id => exact Spawn.ordered_start kind id
    | defer address waker => exact Defer.ordered_start address waker
    | shutdown => exact Shutdown.ordered_start
    | _ => trivial
  · intro world thread current op next _ _ acts ordered
    cases acts with
    | spawn acts => exact Spawn.ordered_acts acts ordered
    | defer acts => exact Defer.ordered_acts acts ordered
    | shutdown acts => exact Shutdown.ordered_acts acts ordered
    | _ => trivial

theorem ordered_of_spawn (reached : program.Reachable world)
    {thread : Nat} {spawn : Spawn}
    (running : world.threads thread = some (.spawn spawn)) :
    spawn.Ordered :=
  ordered_of_reachable reached running

theorem ordered_of_defer (reached : program.Reachable world)
    {thread : Nat} {defer : Defer}
    (running : world.threads thread = some (.defer defer)) :
    defer.Ordered :=
  ordered_of_reachable reached running

theorem ordered_of_shutdown (reached : program.Reachable world)
    {thread : Nat} {run : Shutdown}
    (running : world.threads thread = some (.shutdown run)) :
    run.Ordered :=
  ordered_of_reachable reached running

theorem activity_lt_nextId (reached : program.Reachable world)
    {id : Nat} {slot : Option Waker}
    (found : world.shared.activities.lookup id = some slot) :
    id < world.shared.nextId := by
  refine Program.shared_invariant
    (fun shared => ∀ id slot,
      shared.activities.lookup id = some slot → id < shared.nextId)
    ?_ ?_ reached id slot found
  · rintro shared rfl id slot found
    cases found
  · intro world thread current op next _ _ _ bounded id slot found
    exact (ownerChange_apply op world.shared).activity_lt_nextId bounded
      found

theorem activity_nextId_eq_none (reached : program.Reachable world) :
    world.shared.activities.lookup world.shared.nextId = none := by
  cases found :
      world.shared.activities.lookup world.shared.nextId with
  | none => rfl
  | some slot =>
      exact absurd (activity_lt_nextId reached found) (Nat.lt_irrefl _)

/-- The activity records in the owner are owned by threads. -/
theorem activityOwning : program.Owning
    (fun shared id => (shared.activities.lookup id).isSome)
    (fun thread id => thread.cleanup = .armed id) where
  starts := by
    intro first id starts
    cases starts <;> simp [Thread.cleanup, Entry.start, BlockOn.start,
      Build.start, Defer.start, Shutdown.start]
  acquires := by
    intro world thread current op next id reached running acts owned
    have unused := activity_nextId_eq_none reached
    have step := Thread.cleanupStep_of_acts acts
    generalize current.cleanup = before at step ⊢
    rw [owned] at step
    cases step with
    | same keeps => exact Or.inl rfl
    | activity admitted =>
        rw [(OwnerState.activity_eq_ok admitted).2.1]
        exact Or.inr (by simp [unused])
    | callback admitted =>
        rw [(OwnerState.callback_eq_some admitted).2.1]
        exact Or.inr (by simp [unused])
    | drop drops => cases drops
  keeps := by
    intro world thread current op next id reached running acts present
      owned
    have step := Thread.cleanupStep_of_acts acts
    generalize current.cleanup = before at step present
    rw [owned] at step
    cases step with
    | same keeps =>
        obtain ⟨slot, found⟩ := Option.isSome_iff_exists.mp (present rfl)
        rcases (ownerChange_apply op world.shared).activity_before
            (activity_lt_nextId reached found) found with
          kept | ⟨removed, _⟩ | ⟨waker, _, _, updated⟩
        · exact Option.isSome_iff_exists.mpr ⟨_, kept⟩
        · exact absurd removed (keeps id)
        · exact Option.isSome_iff_exists.mpr ⟨_, updated⟩
    | activity admitted =>
        obtain ⟨_, rfl, added⟩ := OwnerState.activity_eq_ok admitted
        change (world.shared.owner.activity.1.state.activities.lookup
          _).isSome = true
        simp [added, OwnerState.addActivity]
    | callback admitted =>
        obtain ⟨_, rfl, added⟩ := OwnerState.callback_eq_some admitted
        change ((world.shared.owner.callback _).1.state.activities.lookup
          _).isSome = true
        simp [added, OwnerState.addActivity]
    | drop drops => cases drops
  releases := by
    intro world thread current op next id reached running acts present
      gone
    obtain ⟨slot, found⟩ := Option.isSome_iff_exists.mp present
    rcases (ownerChange_apply op world.shared).activity_before
        (activity_lt_nextId reached found) found with
      kept | ⟨rfl, _⟩ | ⟨waker, _, _, updated⟩
    · exact absurd (Option.isSome_iff_exists.mpr ⟨_, kept⟩) gone
    · exact (Thread.removeActivity_of_acts acts).1
    · exact absurd (Option.isSome_iff_exists.mpr ⟨_, updated⟩) gone

/-- The record of an armed cleanup is in the owner. -/
theorem activity_of_armed (reached : program.Reachable world)
    {thread id : Nat} {found : Thread}
    (running : world.threads thread = some found)
    (armed : found.cleanup = .armed id) :
    (world.shared.activities.lookup id).isSome :=
  activityOwning.isPresent reached running armed

/-- Two threads have no cleanup for the same record. -/
theorem not_armed_of_armed (reached : program.Reachable world)
    {thread other id : Nat} {found held : Thread}
    (different : thread ≠ other)
    (running : world.threads thread = some found)
    (otherRunning : world.threads other = some held)
    (armed : found.cleanup = .armed id) :
    held.cleanup ≠ .armed id :=
  activityOwning.exclusive reached different running otherRunning armed

end Telekio.Bridge
