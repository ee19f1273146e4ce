import Telekio.Bridge.Quiescence

/-!
# What dies under the owner's lock

`Op.events` is the order in which one operation takes the lock, gives it back
and drops values, as the drop order of the locals and temporaries of the
source decides it. A guard is a local: a value moved into the function or
bound before the guard dies after it, a temporary or a later local before it.
-/

namespace Telekio.Bridge

open Telekio.Interleave
open Telekio.Owner

/-- A value that an operation drops. A `context` is the last reference to a
`HandleContext`, a `contextClone` is not. -/
inductive Value where
  | context (context : ContextRef)
  | contextClone (context : ContextRef)
  | runtime (runtime : RuntimeRef)
  | resource (resource : ResourceRef)
  | waker (waker : Waker)
  | abortHandle (handle : AbortHandle)
deriving DecidableEq, Repr

inductive Event where
  | lock
  | unlock
  | drop (value : Value)
deriving DecidableEq, Repr

/-- A handle of a runtime that the plugin built holds its builder callbacks;
a worker observer holds the plugin's worker callback. -/
def HandleContext.holdsGuest (handle : HandleContext) : Prop :=
  handle.guestBuilt = true ∨ handle.workerObserver = true

/-- The context is one whose drop may call a guest release function. -/
def Shared.guestContext (shared : Shared) (context : ContextRef) : Prop :=
  ∃ handle, shared.contexts context = some handle ∧ handle.holdsGuest

/-- The drop may call a guest release function. An abort handle frees at most
the cell of a task whose future is gone. -/
def Value.callsGuest (shared : Shared) : Value → Prop
  | .context address => shared.guestContext address
  | .contextClone _ => False
  | .runtime address => shared.runtimeClosed address = false
  | .resource address =>
      ∃ held, shared.resources address = some held ∧
        (held.value ≠ none ∨ held.waker ≠ none)
  | .waker (.deferred address) =>
      ∃ state, shared.deferreds address = some state ∧
        state.waker ≠ none
  | .waker _ => False
  | .abortHandle _ => False

namespace Op

def emptySection : List Event :=
  [.lock, .unlock]

/-- The stored value of a table entry that is overwritten or removed. -/
def dropStored {α : Type} (wrap : α → Value) (stored : Option (Option α)) :
    List Event :=
  match stored with
  | some (some value) => [.drop (wrap value)]
  | _ => []

def events (op : Op) (shared : Shared) : List Event :=
  match op with
  | .callback waker =>
      if shared.accepting then emptySection
      else emptySection ++ [.drop (.waker waker)]
  | .activity => emptySection
  | .updateActivityWaker id _ =>
      if shared.accepting then
        .lock :: dropStored .waker (shared.activities.lookup id) ++
          [.unlock]
      else emptySection
  | .removeActivity id =>
      .lock :: dropStored .waker (shared.activities.lookup id) ++
        [.unlock]
  | .wakeActivities => emptySection
  | .exportHandle context _ =>
      match shared.owner.state.handles.lookup context with
      | none => emptySection
      | some _ => [.lock, .drop (.contextClone context), .unlock]
  | .retainHandle _ => emptySection
  -- `_handle` is declared after the guard
  | .releaseHandle context =>
      match shared.owner.state.handles.lookup context with
      | none => emptySection
      | some handle =>
          if handle.references = 1 then
            [.lock, .drop (.context handle.context), .unlock]
          else emptySection
  | .reserveTask _ => emptySection
  | .registerTask id handle =>
      match shared.tasks.lookup id with
      | none => emptySection ++ [.drop (.abortHandle handle)]
      | some stored =>
          .lock :: dropStored .abortHandle (some stored) ++ [.unlock]
  | .abortTask _ => emptySection
  | .removeTask id =>
      .lock :: dropStored .abortHandle (shared.tasks.lookup id) ++
        [.unlock]
  | .registerRuntime runtime =>
      if shared.accepting then emptySection
      else emptySection ++ [.drop (.runtime runtime)]
  -- the removed value is returned to the caller
  | .unregisterRuntime id =>
      emptySection ++
        ((shared.owner.state.runtimes.lookup id).toList.map
          fun runtime => .drop (.runtime runtime))
  | .registerResource resource =>
      if shared.accepting then emptySection
      else emptySection ++ [.drop (.resource resource)]
  | .unregisterResource id =>
      emptySection ++
        ((shared.owner.state.resources.lookup id).toList.map
          fun resource => .drop (.resource resource))
  | .waitIdle => emptySection
  | .listRuntimes => emptySection
  | .cutoff => emptySection
  | .detach =>
      match (shared.owner.detach shared.runtimeClosed
          shared.resourceClosed).2 with
      | .error _ => emptySection
      | .ok () =>
          .lock ::
            ((Table.values shared.owner.state.handles).map
              fun handle => .drop (.context handle.context)) ++
            ((Table.values shared.owner.state.runtimes).map
              fun runtime => .drop (.runtime runtime)) ++
            ((Table.values shared.owner.state.resources).map
              fun resource => .drop (.resource resource)) ++
            [.unlock]
  | _ => []

end Op

/-- The values dropped between `lock` and `unlock`. -/
def heldDrops : Bool → List Event → List Value
  | _, [] => []
  | _, .lock :: events => heldDrops true events
  | _, .unlock :: events => heldDrops false events
  | true, .drop value :: events => value :: heldDrops true events
  | false, .drop _ :: events => heldDrops false events

theorem heldDrops_emptySection (held : Bool) :
    heldDrops held Op.emptySection = [] :=
  rfl

/-- A value that is refused is dropped after the section. -/
theorem heldDrops_refused (accepting : Bool) (value : Value) :
    heldDrops false (if accepting then Op.emptySection
      else Op.emptySection ++ [.drop value]) = [] := by
  cases accepting <;> rfl

/-- A value that is removed is dropped after the section. -/
theorem heldDrops_removed {α : Type} (wrap : α → Value)
    (stored : Option α) :
    heldDrops false (Op.emptySection ++
      stored.toList.map fun value => .drop (wrap value)) = [] := by
  cases stored <;> rfl

/-- What is dropped inside the section is held. -/
theorem heldDrops_locked (values : List Value) :
    heldDrops false (.lock :: values.map .drop ++ [.unlock]) =
      values := by
  simp only [List.cons_append, heldDrops]
  induction values with
  | nil => rfl
  | cons value values inductionHypothesis =>
      simpa [heldDrops] using inductionHypothesis

theorem heldDrops_dropStored {α : Type} (wrap : α → Value)
    (stored : Option (Option α)) :
    heldDrops false (.lock :: Op.dropStored wrap stored ++ [.unlock]) =
      (stored.join.toList.map wrap) := by
  rcases stored with _ | _ | value <;> rfl

/-- The operation runs no guest code while it holds the lock. -/
def Op.quiet (op : Op) (shared : Shared) : Prop :=
  ∀ value ∈ heldDrops false (op.events shared),
    ¬ value.callsGuest shared

/-- What an accepted `detach` requires. -/
def Shared.detachable (shared : Shared) : Prop :=
  shared.accepting = false ∧ shared.owner.idle = true ∧
    (∀ runtime, RegisteredRuntime shared runtime →
      shared.runtimeClosed runtime = true) ∧
    ∀ resource, RegisteredResource shared resource →
      shared.resourceClosed resource = true

/-- The operation takes no last reference to a context that holds guest
callbacks out of the table of handles. -/
def Op.keepsGuestContexts (op : Op) (shared : Shared) : Prop :=
  match op with
  | .releaseHandle context =>
      ∀ handle, shared.owner.state.handles.lookup context = some handle →
        handle.references = 1 → ¬ shared.guestContext handle.context
  | .detach =>
      shared.detachable → ∀ context handle,
        shared.owner.state.handles.lookup context = some handle →
        ¬ shared.guestContext handle.context
  | _ => True

theorem detach_eq_ok_iff {shared : Shared} :
    (shared.owner.detach shared.runtimeClosed
      shared.resourceClosed).2 = .ok () ↔ shared.detachable := by
  constructor
  · intro accepted
    unfold OwnerState.detach at accepted
    split at accepted
    · cases accepted
    · rename_i ready
      split at accepted
      · cases accepted
      · rename_i closed
        simp only [OwnerState.isAccepting, Bool.or_eq_true, not_or,
          Bool.not_eq_true, Bool.not_eq_false'] at ready
        simp only [Bool.or_eq_true, not_or, Bool.not_eq_true,
          List.any_eq_false, Bool.not_eq_false'] at closed
        refine ⟨ready.1.1, ?_, ?_, ?_⟩
        · rw [OwnerState.idle, ready.1.2, ready.2, Bool.and_self]
        · intro runtime registered
          simpa using closed.1 runtime (Table.mem_values.mpr registered)
        · intro resource registered
          simpa using closed.2 resource (Table.mem_values.mpr registered)
  · rintro ⟨refusing, idle, runtimes, resources⟩
    obtain ⟨tasks, activities⟩ := idle_iff.mp idle
    exact detach_of_shutDown
      ⟨refusing, tasks, activities, runtimes, resources⟩

/-- The waker that a thread may have stored in its own record. -/
def Thread.mayStore (thread : Thread) (slot : Option Waker) : Prop :=
  match thread with
  | .blockOn _ => slot = none ∨ ∃ task, slot = some (.host task)
  | .defer call => slot = some (.deferred call.address)
  | .entry _ => slot = none ∨ slot = some .noop
  | .shutdown _ => slot = some .noop
  | _ => slot = none

/-- What a thread becomes stores the same wakers. -/
theorem Thread.mayStore_of_acts {shared : Shared} {current next : Thread}
    {op : Op} {slot : Option Waker}
    (acts : Thread.Acts shared current op next)
    (stored : current.mayStore slot) : next.mayStore slot := by
  cases acts with
  | defer acts => cases acts <;> exact stored
  | _ => exact stored

theorem Thread.mayStore_of_activity {shared : Shared}
    {current next : Thread}
    (acts : Thread.Acts shared current .activity next) :
    next.mayStore none := by
  rcases performs_of_acts acts with
    ⟨call, rfl⟩ | ⟨call, rfl⟩ | ⟨call, rfl⟩
  · cases acts with | entry acts => exact Or.inl rfl
  · cases acts with | blockOn acts => exact Or.inl rfl
  · cases acts with | build acts => rfl

theorem Thread.mayStore_of_callback {shared : Shared}
    {current next : Thread} {waker : Waker}
    (acts : Thread.Acts shared current (.callback waker) next) :
    next.mayStore (some waker) := by
  rcases performs_of_acts acts with
    ⟨call, rfl⟩ | ⟨call, rfl⟩ | ⟨run, rfl⟩
  · cases acts with
    | entry acts =>
        cases acts with
        | callback isCallback called admitted => exact Or.inr rfl
        | refuseCallback isCallback called refused => exact Or.inr rfl
        | drop leaving drops => cases drops
  · cases acts with
    | defer acts =>
        cases acts with
        | callback created admitted => rfl
        | refuse created refused => rfl
        | drop leaving drops => cases drops
  · cases acts with
    | shutdown acts =>
        cases acts with
        | callback called admitted => rfl
        | refuseCallback called refused => rfl
        | drop leaving drops => cases drops

theorem mayStore_of_armed (reached : program.Reachable world)
    {thread id : Nat} {found : Thread} {slot : Option Waker}
    (running : world.threads thread = some found)
    (armed : found.cleanup = .armed id)
    (stored : world.shared.activities.lookup id = some slot) :
    found.mayStore slot := by
  refine Program.thread_invariant
    (fun shared held => ∀ id slot, held.cleanup = .armed id →
      shared.activities.lookup id = some slot → held.mayStore slot)
    ?_ ?_ ?_ reached running id slot armed stored
  · intro world first _ starts id slot armed
    exact absurd armed (activityOwning.starts first id starts)
  · intro world thread current op next reached running acts earlier id
      slot armed stored
    rcases (ownerChange_apply op world.shared).activity_after stored with
      old | ⟨⟨waker, rfl, rfl⟩ | ⟨rfl, rfl⟩, _, _⟩ | ⟨waker, rfl, rfl, _⟩
    · refine Thread.mayStore_of_acts acts (earlier id slot ?_ old)
      rcases activityOwning.acquires world thread current op next id
          reached running acts armed with owned | absent
      · exact owned
      · exact absurd (by simp [old]) absent
    · exact Thread.mayStore_of_callback acts
    · exact Thread.mayStore_of_activity acts
    · obtain ⟨call, rfl⟩ := Thread.performs_of_acts acts
      cases acts with
      | blockOn acts =>
          cases acts with
          | poll polled => exact Or.inr ⟨polled, rfl⟩
          | refusePoll polled => exact Or.inr ⟨polled, rfl⟩
          | drop leaving drops => cases drops
  · intro world thread bystander current op next held reached different
      running holding acts earlier id slot armed stored
    have exclusive := not_armed_of_armed reached different holding
      running armed
    rcases (ownerChange_apply op world.shared).activity_after stored with
      old | ⟨_, _, rfl⟩ | ⟨waker, rfl, _⟩
    · exact earlier id slot armed old
    · have present := activity_of_armed reached holding armed
      simp [activity_nextId_eq_none reached] at present
    · obtain ⟨call, rfl, owned⟩ :=
        Thread.updateActivityWaker_of_acts acts
      exact absurd owned exclusive

/-! ## The result -/

variable {thread : Nat} {current next : Thread} {op : Op}

attribute [local simp] Op.events

theorem quiet_of_unheld {shared : Shared}
    (unheld : heldDrops false (op.events shared) = []) :
    op.quiet shared := by
  intro value dropped
  rw [unheld] at dropped
  cases dropped

/-- The context that is given back has its reference in the record. -/
theorem quiet_exportHandle {shared : Shared} {context : ContextRef}
    {handle : HandleContext} :
    (Op.exportHandle context handle).quiet shared := by
  intro value dropped
  simp only [Op.events] at dropped
  split at dropped
  · cases dropped
  · rw [List.mem_singleton.mp dropped]
    exact id

/-- Abort handles are the host's own. -/
theorem quiet_registerTask {shared : Shared} {id : Nat}
    {handle : AbortHandle} : (Op.registerTask id handle).quiet shared := by
  intro value dropped
  simp only [Op.events] at dropped
  split at dropped
  · cases dropped
  · rw [heldDrops_dropStored] at dropped
    obtain ⟨old, _, rfl⟩ := List.mem_map.mp dropped
    exact fun callsGuest => callsGuest

theorem quiet_removeTask {shared : Shared} {id : Nat} :
    (Op.removeTask id).quiet shared := by
  intro value dropped
  rw [Op.events, heldDrops_dropStored] at dropped
  obtain ⟨old, _, rfl⟩ := List.mem_map.mp dropped
  exact fun callsGuest => callsGuest

theorem quiet_removeActivity {id : Nat}
    (reached : program.Reachable world)
    (running : world.threads thread = some current)
    (acts : Thread.Acts world.shared current (.removeActivity id) next) :
    (Op.removeActivity id).quiet world.shared := by
  intro value dropped callsGuest
  rw [Op.events, heldDrops_dropStored] at dropped
  obtain ⟨waker, stored, rfl⟩ := List.mem_map.mp dropped
  have found : world.shared.activities.lookup id = some (some waker) :=
    Option.join_eq_some_iff.mp (Option.mem_toList.mp stored)
  have mayStore := mayStore_of_armed reached running
    (Thread.removeActivity_of_acts acts).1 found
  cases waker with
  | noop => exact callsGuest
  | host task => exact callsGuest
  | deferred address =>
      cases acts with
      | defer acts =>
          cases acts with
          | drop dropping drops =>
              obtain ⟨state, known, waits⟩ := callsGuest
              have same := Waker.deferred.inj (Option.some.inj mayStore)
              have ordered := ordered_of_defer reached running
              obtain ⟨settled, known', isSettled⟩ :=
                settled_of_defer reached running (fun called => by
                  have absent := ordered.unadmitted (Or.inl called)
                  rw [ordered.undropped absent] at dropping
                  cases dropping)
              rw [← same, known] at known'
              cases known'
              exact waits (isSettled.woken (isSettled.dropping dropping))
      | blockOn acts => simp [Thread.mayStore] at mayStore
      | entry acts => simp [Thread.mayStore] at mayStore
      | shutdown acts => simp [Thread.mayStore] at mayStore
      | _ => simp [Thread.mayStore] at mayStore

theorem quiet_updateActivityWaker {id : Nat} {waker : Waker}
    (reached : program.Reachable world)
    (running : world.threads thread = some current)
    (acts : Thread.Acts world.shared current
      (.updateActivityWaker id waker) next) :
    (Op.updateActivityWaker id waker).quiet world.shared := by
  intro value dropped callsGuest
  cases accepted : world.shared.accepting with
  | false =>
      simp [Op.events, accepted, heldDrops_emptySection] at dropped
  | true =>
      rw [Op.events, if_pos accepted, heldDrops_dropStored] at dropped
      obtain ⟨old, stored, rfl⟩ := List.mem_map.mp dropped
      have found : world.shared.activities.lookup id =
          some (some old) :=
        Option.join_eq_some_iff.mp (Option.mem_toList.mp stored)
      obtain ⟨call, rfl, armed⟩ :=
        Thread.updateActivityWaker_of_acts acts
      rcases mayStore_of_armed reached running armed found with
        none | ⟨task, host⟩
      · cases none
      · cases Option.some.inj host
        exact callsGuest

theorem quiet_releaseHandle_iff {shared : Shared} {context : ContextRef} :
    (Op.releaseHandle context).quiet shared ↔
      (Op.releaseHandle context).keepsGuestContexts shared := by
  cases found : shared.owner.state.handles.lookup context with
  | none =>
      simp [Op.quiet, Op.keepsGuestContexts, Op.events, found,
        heldDrops_emptySection]
  | some handle =>
      by_cases last : handle.references = 1
      · simp [Op.quiet, Op.keepsGuestContexts, Op.events, found, last,
          heldDrops, Value.callsGuest]
      · simp [Op.quiet, Op.keepsGuestContexts, Op.events, found, last,
          heldDrops_emptySection]

/-- An accepted `detach` drops nothing but contexts that could call the
guest: the runtimes and resources are closed. -/
theorem quiet_detach_iff (reached : program.Reachable world) :
    Op.detach.quiet world.shared ↔
      Op.detach.keepsGuestContexts world.shared := by
  cases result : (world.shared.owner.detach world.shared.runtimeClosed
      world.shared.resourceClosed).2 with
  | error message =>
      have refused : ¬ world.shared.detachable := fun ready => by
        rw [detach_eq_ok_iff.mpr ready] at result
        cases result
      simp [Op.quiet, Op.keepsGuestContexts, Op.events, result, refused,
        heldDrops_emptySection]
  | ok done =>
      have ready := detach_eq_ok_iff.mp result
      obtain ⟨_, idle, runtimes, resources⟩ := ready
      have held : heldDrops false (Op.detach.events world.shared) =
          (Table.values world.shared.owner.state.handles).map
              (fun handle => Value.context handle.context) ++
            ((Table.values world.shared.owner.state.runtimes).map
                Value.runtime ++
              (Table.values world.shared.owner.state.resources).map
                Value.resource) := by
        rw [← heldDrops_locked (_ ++ (_ ++ _))]
        simp [Op.events, result, List.map_map, Function.comp_def]
      constructor
      · intro quiet _ context handle found
        refine quiet (.context handle.context) ?_
        rw [held]
        exact List.mem_append_left _ (List.mem_map.mpr
          ⟨handle, Table.mem_values.mpr ⟨context, found⟩, rfl⟩)
      · intro keeps value dropped callsGuest
        rw [held, List.mem_append, List.mem_append] at dropped
        rcases dropped with member | member | member
        · obtain ⟨handle, found, rfl⟩ := List.mem_map.mp member
          obtain ⟨context, known⟩ := Table.mem_values.mp found
          exact keeps (detach_eq_ok_iff.mp result) context handle known
            callsGuest
        · obtain ⟨runtime, found, rfl⟩ := List.mem_map.mp member
          have closed := runtimes runtime (Table.mem_values.mp found)
          exact absurd (closed.symm.trans callsGuest) (by decide)
        · obtain ⟨resource, found, rfl⟩ := List.mem_map.mp member
          obtain ⟨held, known, holds⟩ := callsGuest
          obtain ⟨same, known', isClosed⟩ := Shared.resourceClosed_iff.mp
            (resources resource (Table.mem_values.mp found))
          cases known.symm.trans known'
          rcases holds with value | waker
          · rw [HostResource.isClosed, Option.isNone_iff_eq_none]
              at isClosed
            exact value isClosed
          · exact waker
              (waker_eq_none_of_idle reached idle known isClosed)

/-- An owner operation runs no guest code under the owner's lock exactly when
it takes no last reference to a context that holds guest callbacks out of the
table of handles. -/
theorem quiet_iff_keepsGuestContexts
    (reached : program.Reachable world)
    (running : world.threads thread = some current)
    (acts : Thread.Acts world.shared current op next) :
    op.quiet world.shared ↔ op.keepsGuestContexts world.shared := by
  cases op with
  | releaseHandle context => exact quiet_releaseHandle_iff
  | detach => exact quiet_detach_iff reached
  | removeActivity id =>
      exact iff_of_true (quiet_removeActivity reached running acts)
        trivial
  | updateActivityWaker id waker =>
      exact iff_of_true (quiet_updateActivityWaker reached running acts)
        trivial
  | exportHandle context handle =>
      exact iff_of_true quiet_exportHandle trivial
  | registerTask id handle => exact iff_of_true quiet_registerTask trivial
  | removeTask id => exact iff_of_true quiet_removeTask trivial
  | callback waker =>
      exact iff_of_true (quiet_of_unheld (heldDrops_refused _ _)) trivial
  | registerRuntime runtime =>
      exact iff_of_true (quiet_of_unheld (heldDrops_refused _ _)) trivial
  | registerResource resource =>
      exact iff_of_true (quiet_of_unheld (heldDrops_refused _ _)) trivial
  | unregisterRuntime id =>
      exact iff_of_true
        (quiet_of_unheld (heldDrops_removed .runtime _)) trivial
  | unregisterResource id =>
      exact iff_of_true
        (quiet_of_unheld (heldDrops_removed .resource _)) trivial
  | _ => exact iff_of_true (quiet_of_unheld rfl) trivial

/-- A plugin builds a runtime, shuts it down and releases it; the handle it
still has is the last reference to the context of that runtime. -/
theorem exists_lastReference :
    ∃ world, program.Reachable world ∧
      world.threads 1 = some (.handle ⟨0⟩) ∧
      world.shared.owner.state.handles.lookup 0 = some ⟨0, 1⟩ ∧
      world.shared.contexts 0 = some ⟨true, false⟩ := by
  have forked := reachable_fresh.fork 0 rfl (.build 0)
  have inside := forked.move 0 rfl (.build (.activity rfl rfl))
  have built := inside.move 0 rfl
    (.build (.buildRuntime 0 .runtime rfl (Or.inl rfl) rfl))
  have registered := built.move 0 rfl (.build (.register rfl rfl))
  have exported :=
    registered.move 0 rfl (.build (.exportHandle 0 rfl rfl))
  have removed := exported.move 0 rfl (.build (.drop rfl (.remove rfl)))
  have notified := removed.move 0 rfl (.build (.drop rfl (.notify rfl)))
  have returned := notified.move 0 rfl (.build (.return_ rfl trivial))
  have shutDown := returned.move 0 rfl (.build (.shutdown 0 rfl rfl))
  have released :=
    shutDown.move 0 rfl (.build (.releaseRuntime rfl rfl))
  have holding := released.fork 1 rfl (.handle 0)
  exact ⟨_, holding, rfl, rfl, rfl⟩

/-- That handle's release drops the builder callbacks under the lock. -/
theorem exists_guestDrop_locked :
    ¬ ∀ world thread current op next,
      program.Reachable world →
      world.threads thread = some current →
      Thread.Acts world.shared current op next →
      op.quiet world.shared := by
  intro claim
  obtain ⟨world, reached, running, handle, context⟩ :=
    exists_lastReference
  have quiet := claim world 1 _ (.releaseHandle 0) _ reached running
    (.handle .release)
  refine quiet (.context 0) ?_ ⟨_, context, Or.inl rfl⟩
  rw [Op.events, handle]
  exact List.mem_singleton_self _

/-- The release of one of two references is quiet. -/
theorem quiet_iff_keepsGuestContexts_of_retained :
    ∃ world, program.Reachable world ∧
      (Op.releaseHandle 0).quiet world.shared := by
  have attached := (reachable_fresh.fork 0 rfl (.handle 0)).move 0 rfl
    (.handle (.attach rfl))
  have retained := attached.move 0 rfl (.handle .retain)
  refine ⟨_, retained, (@quiet_iff_keepsGuestContexts 0 _ _ _ _ retained
    rfl (.handle .release)).mpr ?_⟩
  rintro handle found last ⟨context, known, holds⟩
  cases found
  cases last

end Telekio.Bridge
