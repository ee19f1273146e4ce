import Telekio.Interleave.Layer
import Telekio.Rundown.Protocol
import Telekio.Bridge.Records
import Telekio.Bridge.Sweeps

/-!
# The owner is a rundown protection

What the owner is for, and that the code does it: activities and tasks are
acquired and released, the cutoff is the close, and `wait_idle` and `detach`
end a wait. Every interleaving of the calls is a history of the protocol.
-/

namespace Telekio.Bridge

open Telekio.Interleave
open Telekio.Owner

/-- What a user of the owner holds. -/
inductive Record where
  | task (id : Nat)
  | activity (id : Nat)
deriving DecidableEq, Repr

def holds (owner : OwnerState) : Record → Prop
  | .task id => (owner.state.tasks.lookup id).isSome = true
  | .activity id => (owner.state.activities.lookup id).isSome = true

/-- The owner as the protocol sees it. -/
def protection (owner : OwnerState) : Rundown.State Record :=
  ⟨owner.accepting, {record | holds owner record}⟩

/-- What an operation is to the protocol. A duplicate id of a task is turned
away by an error of its own. -/
def Op.event (op : Op) (shared : Shared) :
    Option (Rundown.Event Record) :=
  match op with
  | .activity =>
      if shared.accepting then
        some (.acquire (.activity shared.nextId))
      else
        some .refuse
  | .callback _ =>
      if shared.accepting then
        some (.acquire (.activity shared.nextId))
      else
        some .refuse
  | .reserveTask id =>
      if shared.accepting then
        if id ∈ shared.tasks then
          none
        else
          some (.acquire (.task id))
      else
        some .refuse
  | .removeActivity id => some (.release (.activity id))
  | .removeTask id => some (.release (.task id))
  | .cutoff =>
      if (shared.owner.cutoff shared.localOpen).2.isOk then
        some .close
      else
        none
  | .waitIdle => if shared.owner.idle then some .drained else none
  | .detach =>
      if (shared.owner.detach shared.runtimeClosed
          shared.resourceClosed).2.isOk then
        some .drained
      else
        none
  | _ => none

theorem protection_eq {before after : OwnerState}
    (accepting : after.accepting = before.accepting)
    (tasks : ∀ id, (after.state.tasks.lookup id).isSome =
      (before.state.tasks.lookup id).isSome)
    (activities : ∀ id, (after.state.activities.lookup id).isSome =
      (before.state.activities.lookup id).isSome) :
    protection after = protection before := by
  have same : ∀ record, holds after record = holds before record := by
    intro record
    cases record with
    | task id => simp [holds, tasks]
    | activity id => simp [holds, activities]
  simp [protection, accepting, same]

theorem isSome_assign {α : Type} (key other : Nat) (value : α)
    (table : Table α) :
    ((Table.assign key value table).lookup other).isSome =
      (table.lookup other).isSome := by
  rw [Table.lookup_assign_eq]
  split
  · rename_i present
    obtain ⟨rfl, found⟩ := present
    simp [found]
  · rfl

variable {shared : Shared} {op : Op}

/-- What is no event leaves the protocol where it is. -/
theorem protection_of_silent (silent : op.event shared = none) :
    protection (op.apply shared).owner = protection shared.owner := by
  have change := ownerChange_apply op shared
  generalize (op.apply shared).owner = after at change
  cases change with
  | same op => rfl
  | callback waker running => simp [Op.event, running] at silent
  | activity running => simp [Op.event, running] at silent
  | updateActivityWaker id waker running =>
      exact protection_eq rfl (fun _ => rfl)
        fun other => isSome_assign id other _ _
  | removeActivity id => simp [Op.event] at silent
  | notifyWaiters => rfl
  | handles op handles => rfl
  | reserveTask id running absent =>
      simp [Op.event, running, AList.lookup_eq_none.mp absent] at silent
  | registerTask id handle =>
      exact protection_eq rfl (fun other => isSome_assign id other _ _)
        fun _ => rfl
  | removeTask id => simp [Op.event] at silent
  | registerRuntime runtime running => rfl
  | unregisterRuntime id => rfl
  | registerResource resource running => rfl
  | unregisterResource id => rfl
  | cutoff noLocal =>
      simp [Op.event, OwnerState.cutoff, noLocal, Except.isOk,
        Except.toBool] at silent
  | detach => rfl

theorem protection_of_accepting {owner : OwnerState}
    (running : owner.accepting = true) :
    protection owner = ⟨true, {record | holds owner record}⟩ := by
  simp [protection, running]

theorem protection_of_refusing {owner : OwnerState}
    (refusing : owner.accepting = false) :
    protection owner = ⟨false, {record | holds owner record}⟩ := by
  simp [protection, refusing]

theorem protection_of_idle {owner : OwnerState}
    (refusing : owner.accepting = false)
    (tasks : ∀ id, owner.state.tasks.lookup id = none)
    (activities : ∀ id, owner.state.activities.lookup id = none) :
    protection owner = ⟨false, ∅⟩ := by
  have empty : {record | holds owner record} = ∅ := by
    ext record
    cases record with
    | task id => simp [holds, tasks]
    | activity id => simp [holds, activities]
  rw [protection_of_refusing refusing, empty]

theorem protection_addActivity {owner : OwnerState} (slot : Option Waker) :
    protection (owner.addActivity slot) =
      ⟨owner.accepting, insert (.activity owner.state.nextId)
        {record | holds owner record}⟩ := by
  have same : {record | holds (owner.addActivity slot) record} =
      insert (.activity owner.state.nextId)
        {record | holds owner record} := by
    ext record
    cases record with
    | task id => simp [holds, OwnerState.addActivity]
    | activity id =>
        by_cases new : id = owner.state.nextId
        · simp [holds, OwnerState.addActivity, new]
        · simp [holds, OwnerState.addActivity, Table.lookup_insert_eq,
            new]
  rw [protection, same]
  rfl

theorem protection_removeActivity {owner : OwnerState} (id : Nat) :
    protection (owner.removeActivity id) =
      ⟨owner.accepting,
        {record | holds owner record} \ {.activity id}⟩ := by
  have same : {record | holds (owner.removeActivity id) record} =
      {record | holds owner record} \ {.activity id} := by
    ext record
    cases record with
    | task other => simp [holds, OwnerState.removeActivity]
    | activity other =>
        by_cases removed : other = id
        · simp [holds, OwnerState.removeActivity, removed]
        · simp [holds, OwnerState.removeActivity, Table.lookup_erase_eq,
            removed]
  rw [protection, same]
  rfl

theorem protection_reserveTask {owner : OwnerState} (id : Nat) :
    protection (owner.setTasks (owner.state.tasks.insert id none)) =
      ⟨owner.accepting, insert (.task id)
        {record | holds owner record}⟩ := by
  have same : {record | holds
        (owner.setTasks (owner.state.tasks.insert id none)) record} =
      insert (.task id) {record | holds owner record} := by
    ext record
    cases record with
    | activity other => simp [holds, OwnerState.setTasks]
    | task other =>
        by_cases new : other = id
        · simp [holds, OwnerState.setTasks, new]
        · simp [holds, OwnerState.setTasks, Table.lookup_insert_eq, new]
  rw [protection, same]
  rfl

theorem protection_removeTask {owner : OwnerState} (id : Nat) :
    protection (owner.removeTask id) =
      ⟨owner.accepting, {record | holds owner record} \ {.task id}⟩ := by
  have same : {record | holds (owner.removeTask id) record} =
      {record | holds owner record} \ {.task id} := by
    ext record
    cases record with
    | activity other =>
        simp [holds, OwnerState.removeTask, OwnerState.setTasks]
    | task other =>
        by_cases removed : other = id
        · simp [holds, OwnerState.removeTask, OwnerState.setTasks,
            removed]
        · simp [holds, OwnerState.removeTask, OwnerState.setTasks,
            Table.lookup_erase_eq, removed]
  rw [protection, same]
  rfl

/-- Only a run past its cutoff looks for an idle owner. -/
theorem refusing_of_waitIdle {world : World}
    (reached : program.Reachable world) {thread : Nat}
    {current next : Thread}
    (running : world.threads thread = some current)
    (acts : Thread.Acts world.shared current .waitIdle next) :
    Refusing world.shared := by
  cases acts with
  | shutdown acts =>
      cases acts with
      | idle checking idle =>
          exact refusing_of_tasksLeft reached running
            (by simp [checking, ShutdownStage.tasksLeft])
      | park checking busy =>
          exact refusing_of_tasksLeft reached running
            (by simp [checking, ShutdownStage.tasksLeft])
      | drop dropping drops => cases drops
  | entry acts =>
      cases acts with
      | drop leaving drops => cases drops
  | blockOn acts =>
      cases acts with
      | drop leaving drops => cases drops
  | build acts =>
      cases acts with
      | drop leaving drops => cases drops
  | defer acts =>
      cases acts with
      | drop dropping drops => cases drops
  | spawn acts => cases acts
  | resource acts => cases acts
  | abort acts => cases acts
  | handle acts => cases acts
  | detach acts => cases acts

section Steps

variable {owner after : OwnerState} {record : Record}

theorem step_acquire (running : owner.accepting = true)
    (absent : ¬ holds owner record)
    (added : protection after = ⟨owner.accepting,
      insert record {record | holds owner record}⟩) :
    Rundown.Step (protection owner) (.acquire record)
      (protection after) := by
  rw [added, protection_of_accepting running, running]
  exact .acquire absent

theorem step_refuse (refusing : owner.accepting = false) :
    Rundown.Step (protection owner) .refuse (protection owner) := by
  rw [protection_of_refusing refusing]
  exact .refuse

theorem step_release (present : holds owner record)
    (removed : protection after = ⟨owner.accepting,
      {record | holds owner record} \ {record}⟩) :
    Rundown.Step (protection owner) (.release record)
      (protection after) := by
  rw [removed]
  exact .release present

end Steps

/-- An admission of an activity, or a refusal, whichever call asks. -/
theorem step_of_admission {world : World}
    (reached : program.Reachable world) {op : Op}
    {event : Rundown.Event Record} (slot : Option Waker)
    (admits : world.shared.accepting = true →
      (op.apply world.shared).owner = world.shared.owner.addActivity slot)
    (refuses : world.shared.accepting = false →
      (op.apply world.shared).owner = world.shared.owner)
    (seen : (if world.shared.accepting then
        some (.acquire (.activity world.shared.nextId))
      else
        some .refuse) = some event) :
    Rundown.Step (protection world.shared.owner) event
      (protection (op.apply world.shared).owner) := by
  cases accepting : world.shared.accepting with
  | true =>
      obtain rfl : .acquire (.activity world.shared.nextId) = event := by
        simpa [accepting] using seen
      rw [admits accepting]
      refine step_acquire accepting ?_ (protection_addActivity slot)
      simp [holds, activity_nextId_eq_none reached]
  | false =>
      obtain rfl : .refuse = event := by
        simpa [accepting] using seen
      rw [refuses accepting]
      exact step_refuse accepting

theorem step_of_reserveTask {world : World} {id : Nat}
    {event : Rundown.Event Record}
    (seen : (Op.reserveTask id).event world.shared = some event) :
    Rundown.Step (protection world.shared.owner) event
      (protection (Op.apply (.reserveTask id) world.shared).owner) := by
  change Rundown.Step _ _
    (protection (world.shared.owner.reserveTask id).1)
  cases accepting : world.shared.accepting with
  | false =>
      obtain rfl : .refuse = event := by
        simpa [Op.event, accepting] using seen
      have same : (world.shared.owner.reserveTask id).1 =
          world.shared.owner := by
        simp [OwnerState.reserveTask, OwnerState.isAccepting, accepting]
      rw [same]
      exact step_refuse accepting
  | true =>
      by_cases present : id ∈ world.shared.tasks
      · simp [Op.event, accepting, present] at seen
      · obtain rfl : .acquire (.task id) = event := by
          simpa [Op.event, accepting, present] using seen
        have added : (world.shared.owner.reserveTask id).1 =
            world.shared.owner.setTasks
              (world.shared.owner.state.tasks.insert id none) := by
          simp [OwnerState.reserveTask, OwnerState.isAccepting, accepting,
            present]
        rw [added]
        refine step_acquire accepting ?_ (protection_reserveTask id)
        simp [holds, AList.lookup_eq_none.mpr present]

theorem step_of_cutoff {world : World} {event : Rundown.Event Record}
    (seen : Op.event .cutoff world.shared = some event) :
    Rundown.Step (protection world.shared.owner) event
      (protection (Op.apply .cutoff world.shared).owner) := by
  cases cut : (world.shared.owner.cutoff world.shared.localOpen).2 with
  | error text =>
      simp [Op.event, cut, Except.isOk, Except.toBool] at seen
  | ok snapshot =>
      obtain rfl : .close = event := by
        simpa [Op.event, cut, Except.isOk, Except.toBool] using seen
      have after : (Op.apply .cutoff world.shared).owner =
          { world.shared.owner with accepting := false } :=
        (OwnerState.cutoff_eq_ok cut).1
      rw [after]
      exact .close

theorem step_of_detach {world : World} {event : Rundown.Event Record}
    (seen : Op.event .detach world.shared = some event) :
    Rundown.Step (protection world.shared.owner) event
      (protection (Op.apply .detach world.shared).owner) := by
  cases ok : (world.shared.owner.detach world.shared.runtimeClosed
      world.shared.resourceClosed).2.isOk with
  | false => simp [Op.event, ok] at seen
  | true =>
      obtain rfl : .drained = event := by
        simpa [Op.event, ok] using seen
      obtain ⟨refusing, tasks, activities⟩ := idle_of_detach ok
      have before := protection_of_idle refusing tasks activities
      have change := ownerChange_apply .detach world.shared
      generalize (Op.apply .detach world.shared).owner = owner at change
      have after : protection owner = ⟨false, ∅⟩ := by
        cases change with
        | same => exact before
        | handles => exact before
        | detach => exact before
      rw [before, after]
      exact .drained

/-- An event of the code is a step of the protocol. -/
theorem step_of_event {world : World} (reached : program.Reachable world)
    {thread : Nat} {current next : Thread} {op : Op}
    {event : Rundown.Event Record}
    (running : world.threads thread = some current)
    (acts : Thread.Acts world.shared current op next)
    (seen : op.event world.shared = some event) :
    Rundown.Step (protection world.shared.owner) event
      (protection (op.apply world.shared).owner) := by
  cases op with
  | activity =>
      refine step_of_admission reached none ?_ ?_ seen
      · intro running
        simp [Op.apply, Op.owner, OwnerState.activity,
          OwnerState.isAccepting, running]
      · intro refusing
        simp [Op.apply, Op.owner, OwnerState.activity,
          OwnerState.isAccepting, refusing]
  | callback waker =>
      refine step_of_admission reached (some waker) ?_ ?_ seen
      · intro running
        simp [Op.apply, Op.owner, OwnerState.callback,
          OwnerState.isAccepting, running]
      · intro refusing
        simp [Op.apply, Op.owner, OwnerState.callback,
          OwnerState.isAccepting, refusing]
  | reserveTask id => exact step_of_reserveTask seen
  | cutoff => exact step_of_cutoff seen
  | detach => exact step_of_detach seen
  | removeActivity id =>
      obtain rfl : .release (.activity id) = event := by
        simpa [Op.event] using seen
      exact step_release
        (activity_of_armed reached running
          (Thread.removeActivity_of_acts acts).1)
        (protection_removeActivity id)
  | removeTask id =>
      obtain rfl : .release (.task id) = event := by
        simpa [Op.event] using seen
      obtain ⟨spawn, _, rfl, _, same, armed, _⟩ :=
        Thread.removeTask_of_acts acts
      exact step_release
        (taskOwning.isPresent reached running
          (Thread.taskRecord_eq_some.mpr ⟨spawn, rfl, armed, same⟩))
        (protection_removeTask id)
  | waitIdle =>
      have refusing := refusing_of_waitIdle reached running acts
      cases idle : world.shared.owner.idle with
      | false => simp [Op.event, idle] at seen
      | true =>
          obtain rfl : .drained = event := by
            simpa [Op.event, idle] using seen
          obtain ⟨tasks, activities⟩ := idle_iff.mp idle
          change Rundown.Step (protection world.shared.owner) .drained
            (protection world.shared.owner)
          rw [protection_of_idle refusing tasks activities]
          exact .drained
  | _ => simp [Op.event] at seen

/-! ## Histories -/

/-- The shared state with the events so far. -/
structure Chronicle where
  state : Shared
  events : List (Rundown.Event Record)

/-- The code around one owner, with its history. -/
def chronicled : Program Chronicle Thread Op where
  initial := fun chronicle =>
    chronicle.state = Shared.fresh ∧ chronicle.events = []
  start := Thread.Starts
  act := fun chronicle => Thread.Acts chronicle.state
  apply := fun op chronicle =>
    ⟨op.apply chronicle.state,
      chronicle.events ++ (op.event chronicle.state).toList⟩

abbrev ChronicledWorld :=
  Interleave.World Chronicle Thread

/-- Without the history it is the system of the owner. -/
theorem chronicleLayer :
    chronicled.Layer program Chronicle.state some where
  initially := fun _ fresh => fresh.1
  starts := by
    rintro first found starts ⟨⟩
    exact starts
  moves := by
    intro chronicle current op next acts
    exact Or.inl ⟨current, op, next, rfl, rfl, acts, rfl⟩

variable {world : ChronicledWorld}

theorem runs_of_chronicled (reached : chronicled.Reachable world) :
    Rundown.Runs Rundown.State.start world.shared.events
      (protection world.shared.state.owner) := by
  refine Program.shared_invariant
    (fun chronicle => Rundown.Runs Rundown.State.start chronicle.events
      (protection chronicle.state.owner))
    ?_ ?_ reached
  · rintro ⟨state, events⟩ ⟨rfl, rfl⟩
    have fresh : protection Shared.fresh.owner =
        Rundown.State.start := by
      have empty : {record | holds ownerState record} = ∅ := by
        ext record
        cases record <;> simp [holds, ownerState]
      simp only [protection, Shared.fresh, empty]
      rfl
    rw [fresh]
    exact .nil _
  · intro world thread current op next reached running acts runs
    have below := chronicleLayer.reachable_lower reached
    cases seen : op.event world.shared.state with
    | none =>
        have same := protection_of_silent seen
        simpa [chronicled, seen, same] using runs
    | some event =>
        have still : (Program.lower Chronicle.state some world).threads
            thread = some current := by
          simp [Program.lower, running]
        have step : Rundown.Step (protection world.shared.state.owner)
            event (protection (op.apply world.shared.state).owner) :=
          step_of_event below still acts seen
        simpa [chronicled, seen] using runs.snoc step

/-- Every interleaving of the calls on one owner is a history of the
protocol: nothing is admitted after the cutoff, and nothing refused before
it. -/
theorem chronicle_isRundown (reached : chronicled.Reachable world) :
    Rundown.Runs Rundown.State.start world.shared.events
      (protection world.shared.state.owner) ∧
    (∀ before after, world.shared.events = before ++ .close :: after →
      ∀ record, Rundown.Event.acquire record ∉ after) ∧
    ∀ before after, world.shared.events = before ++ .refuse :: after →
      Rundown.Event.close ∈ before := by
  have runs := runs_of_chronicled reached
  refine ⟨runs, fun before after split => ?_,
    fun before after split => ?_⟩
  · rw [split] at runs
    exact runs.acquire_before_close.2
  · rw [split] at runs
    exact runs.close_before_refuse

/-- A run that returned `Ok` has come to the end of a wait. -/
theorem drained_of_returned (reached : chronicled.Reachable world)
    {thread : Nat} {run : Shutdown}
    (running : world.threads thread = some (.shutdown run))
    (returned : run.stage = .returned (.ok ())) :
    Rundown.Event.drained ∈ world.shared.events := by
  refine Program.thread_invariant
    (fun chronicle held => ∀ run, held = .shutdown run →
      run.stage = .returned (.ok ()) →
      Rundown.Event.drained ∈ chronicle.events)
    ?_ ?_ ?_ reached running run rfl returned
  · intro world first _ starts run same returned
    cases starts <;> cases same
    cases returned
  · intro world thread current op next _ _ acts earlier after same returned
    subst same
    cases acts with
    | @shutdown before _ _ acts =>
        have kept : before.stage = .returned (.ok ()) →
            Rundown.Event.drained ∈
              (chronicled.apply op world.shared).events :=
          fun already => List.mem_append_left _
            (earlier before rfl already)
        cases acts with
        | idle checking idle => simp [chronicled, Op.event, idle]
        | drop dropping drops => exact kept returned
        | _ => first | exact kept returned | cases returned
  · intro world thread bystander current op next held _ _ _ _ _ earlier
      run same returned
    exact List.mem_append_left _ (earlier run same returned)

/-- When a shutdown has returned `Ok`, the history of the owner is cut: before
the end of its wait came the cutoff and every admitted activity and task was
given back, each as often as it was taken; after it there are none. -/
theorem shutdown_cutsHistory (reached : chronicled.Reachable world)
    {thread : Nat} {run : Shutdown}
    (running : world.threads thread = some (.shutdown run))
    (returned : run.stage = .returned (.ok ())) :
    ∃ before after, world.shared.events = before ++ .drained :: after ∧
      Rundown.Event.close ∈ before ∧
      (∀ record, before.count (.acquire record) =
        before.count (.release record)) ∧
      ∀ record, Rundown.Event.acquire record ∉ after ∧
        Rundown.Event.release record ∉ after := by
  obtain ⟨before, after, split⟩ :=
    List.append_of_mem (drained_of_returned reached running returned)
  have runs := runs_of_chronicled reached
  rw [split] at runs
  exact ⟨before, after, split, runs.drained⟩

/-- One task, one shutdown that waits for it, and an entry that comes too
late. -/
theorem exists_chronicled :
    ∃ world run, chronicled.Reachable world ∧
      world.threads 0 = some (.shutdown run) ∧
      run.stage = .returned (.ok ()) ∧
      world.shared.events =
        [.acquire (.task 7), .acquire (.activity 1), .close,
          .release (.activity 1), .release (.task 7), .drained,
          .refuse] := by
  have fresh : chronicled.Reachable
      (World.quiet ⟨Shared.fresh, []⟩) := .quiet ⟨rfl, rfl⟩
  have forked := fresh.fork 1 rfl (.spawn .spawn 7)
  have reserved := forked.move 1 rfl (.spawn (.reserve rfl rfl))
  have spawned := reserved.move 1 rfl (.spawn (.hostSpawn 0 rfl rfl))
  have registered := spawned.move 1 rfl (.spawn (.register rfl))
  have began := registered.fork 0 rfl .shutdown
  have entered := began.move 0 rfl (.shutdown (.callback rfl rfl))
  have cut := entered.move 0 rfl (.shutdown (.cutoff rfl rfl))
  have aborted := cut.move 0 rfl (.shutdown (.abort rfl))
  have allAborted := aborted.move 0 rfl (.shutdown (.aborted rfl))
  have closed := allAborted.move 0 rfl (.shutdown (.closed rfl))
  have own := closed.move 0 rfl (.shutdown (.wake rfl))
  have woken := own.move 0 rfl (.shutdown (.woken rfl))
  have listed := woken.move 0 rfl (.shutdown (.noRuntimes rfl rfl))
  have removed :=
    listed.move 0 rfl (.shutdown (.drop trivial (.remove rfl)))
  have notified :=
    removed.move 0 rfl (.shutdown (.drop trivial (.notify rfl)))
  have idling := notified.move 0 rfl (.shutdown (.dropped rfl trivial))
  have cancelling :=
    idling.move 1 rfl (.spawn (.cancel trivial (Or.inl rfl)))
  have releasing := cancelling.move 1 rfl (.spawn (.cancelled rfl))
  have released := releasing.move 1 rfl (.spawn (.released rfl))
  have gone := released.move 1 rfl (.spawn (.removeTask rfl rfl))
  have checking := gone.move 0 rfl (.shutdown (.notified rfl))
  have returned := checking.move 0 rfl (.shutdown (.idle rfl rfl))
  have late := returned.fork 2 rfl (.entry .enter)
  have refused :=
    late.move 2 rfl (.entry (.refuseActivity rfl rfl rfl))
  exact ⟨_, _, refused, rfl, rfl, rfl⟩

theorem chronicle_isRundown_late :
    ∃ world, chronicled.Reachable world ∧
      Rundown.Event.refuse ∈ world.shared.events ∧
      Rundown.Runs Rundown.State.start world.shared.events
        (protection world.shared.state.owner) := by
  obtain ⟨world, run, reached, _, _, events⟩ := exists_chronicled
  exact ⟨world, reached, by simp [events],
    (chronicle_isRundown reached).1⟩

theorem shutdown_cutsHistory_late :
    ∃ world before after, chronicled.Reachable world ∧
      world.shared.events = before ++ .drained :: after ∧
      Rundown.Event.close ∈ before := by
  obtain ⟨world, run, reached, running, returned, _⟩ := exists_chronicled
  obtain ⟨before, after, split, closed, _⟩ :=
    shutdown_cutsHistory reached running returned
  exact ⟨world, before, after, reached, split, closed⟩

end Telekio.Bridge
