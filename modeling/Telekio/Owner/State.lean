import Telekio.Interleave.Table

/-!
# The owner of one plugin's work

`OwnerState` of `bridge/owner.rs`, with one function for every critical
section of its mutex. A section is atomic; the code between two sections, and
the code that drops values after a section, is the business of the threads.

Pointers are numbers: an `Arc` is the address it points to.
-/

namespace Telekio.Owner

open Telekio.Interleave

/-- `task::AbortHandle`, by the address of the host task it aborts. -/
abbrev AbortHandle := Nat

/-- `Arc<RuntimeOwner>`. -/
abbrev RuntimeRef := Nat

/-- `Arc<dyn OwnerResource>`. -/
abbrev ResourceRef := Nat

/-- `Arc<HandleContext>`; its address is also the key of its record. -/
abbrev ContextRef := Nat

/-- The host wakers that an activity record can hold. -/
inductive Waker where
  | noop
  | host (task : Nat)
  | deferred (address : Nat)
deriving DecidableEq, Repr

structure HandleRecord where
  context : ContextRef
  references : Nat
deriving DecidableEq, Repr

structure OwnerStatus where
  handles : Table HandleRecord
  tasks : Table (Option AbortHandle)
  activities : Table (Option Waker)
  runtimes : Table RuntimeRef
  resources : Table ResourceRef
  nextId : Nat

/-- `notify` counts the `notify_waiters` calls: a `Notified` remembers the
count at its creation and has fired once the count has moved on. -/
structure OwnerState where
  accepting : Bool
  state : OwnerStatus
  notify : Nat

/-- What `shutdown_owner` clones out of the owner at its cutoff. -/
structure Snapshot where
  tasks : List AbortHandle
  resources : List ResourceRef
  activities : List Waker

/-- `owner_state`. -/
def ownerState : OwnerState where
  accepting := true
  state :=
    { handles := ∅
      tasks := ∅
      activities := ∅
      runtimes := ∅
      resources := ∅
      nextId := 1 }
  notify := 0

def shuttingDown : String :=
  "Tokio owner is shutting down"

def handleDetached : String :=
  "Tokio handle is detached"

namespace OwnerState

variable (owner : OwnerState)

def isAccepting : Bool :=
  owner.accepting

/-- A new activity record under the next id. -/
def addActivity (waker : Option Waker) : OwnerState :=
  { owner with
    state :=
      { owner.state with
        nextId := owner.state.nextId + 1
        activities :=
          owner.state.activities.insert owner.state.nextId waker } }

def callback (waker : Waker) : OwnerState × Option Nat :=
  if !owner.isAccepting then
    (owner, none)
  else
    (owner.addActivity (some waker), some owner.state.nextId)

def activity : OwnerState × Except String Nat :=
  if !owner.isAccepting then
    (owner, .error shuttingDown)
  else
    (owner.addActivity none, .ok owner.state.nextId)

def updateActivityWaker (id : Nat) (waker : Waker) :
    OwnerState × Bool :=
  if !owner.isAccepting then
    (owner, false)
  else
    ({ owner with
        state :=
          { owner.state with
            activities :=
              Table.assign id (some waker) owner.state.activities } },
      true)

/-- The section of `wake_activities` and of the cutoff that clones the
stored wakers. -/
def activityWakers : List Waker :=
  (Table.values owner.state.activities).filterMap id

/-- The removal in `Activity::drop` and `CallbackCleanup::drop`. -/
def removeActivity (id : Nat) : OwnerState :=
  { owner with
    state :=
      { owner.state with
        activities := owner.state.activities.erase id } }

def notifyWaiters : OwnerState :=
  { owner with notify := owner.notify + 1 }

def setHandle (context : ContextRef) (handle : HandleRecord) :
    OwnerState :=
  { owner with
    state :=
      { owner.state with
        handles := owner.state.handles.insert context handle } }

/-- The record `entry(key).or_insert(..)` finds or makes. -/
def handleEntry (context : ContextRef) : HandleRecord :=
  (owner.state.handles.lookup context).getD
    { context := context, references := 0 }

def exportHandle (context : ContextRef) : OwnerState :=
  let handle := owner.handleEntry context
  owner.setHandle context
    { handle with references := handle.references + 1 }

def retainHandle (context : ContextRef) :
    OwnerState × Except String Unit :=
  match owner.state.handles.lookup context with
  | none => (owner, .error handleDetached)
  | some handle =>
      (owner.setHandle context
        { handle with references := handle.references + 1 }, .ok ())

def releaseHandle (context : ContextRef) :
    OwnerState × Except String Unit :=
  match owner.state.handles.lookup context with
  | none => (owner, .error handleDetached)
  | some handle =>
      match handle.references with
      | 0 => (owner, .error "Tokio handle reference count is empty")
      | references + 1 =>
          if references = 0 then
            ({ owner with
                state :=
                  { owner.state with
                    handles := owner.state.handles.erase context } },
              .ok ())
          else
            (owner.setHandle context
              { handle with references := references }, .ok ())

def setTasks (tasks : Table (Option AbortHandle)) : OwnerState :=
  { owner with state := { owner.state with tasks := tasks } }

def reserveTask (id : Nat) : OwnerState × Except String Unit :=
  if !owner.isAccepting then
    (owner, .error shuttingDown)
  else if id ∈ owner.state.tasks then
    (owner, .error s!"Tokio task {id} is already registered")
  else
    (owner.setTasks (owner.state.tasks.insert id none), .ok ())

/-- The second component tells whether `handle.abort()` was called. -/
def registerTask (id : Nat) (handle : AbortHandle) :
    OwnerState × Bool :=
  (owner.setTasks (Table.assign id (some handle) owner.state.tasks),
    !owner.isAccepting)

/-- The section of `abort_task`; the abort itself follows it. -/
def abortTask (id : Nat) : Option AbortHandle :=
  (owner.state.tasks.lookup id).join

/-- The removal in `finish_task`; the load of `accepting` and the
notification are separate steps. -/
def removeTask (id : Nat) : OwnerState :=
  owner.setTasks (owner.state.tasks.erase id)

def registerRuntime (runtime : RuntimeRef) :
    OwnerState × Except String Nat :=
  if !owner.isAccepting then
    (owner, .error shuttingDown)
  else
    ({ owner with
        state :=
          { owner.state with
            nextId := owner.state.nextId + 1
            runtimes :=
              owner.state.runtimes.insert owner.state.nextId runtime } },
      .ok owner.state.nextId)

def unregisterRuntime (id : Nat) : OwnerState :=
  { owner with
    state :=
      { owner.state with runtimes := owner.state.runtimes.erase id } }

def registerResource (resource : ResourceRef) :
    OwnerState × Except String Nat :=
  if !owner.isAccepting then
    (owner, .error shuttingDown)
  else
    ({ owner with
        state :=
          { owner.state with
            nextId := owner.state.nextId + 1
            resources :=
              owner.state.resources.insert owner.state.nextId
                resource } },
      .ok owner.state.nextId)

def unregisterResource (id : Nat) : OwnerState :=
  { owner with
    state :=
      { owner.state with resources := owner.state.resources.erase id } }

/-- The test of `wait_idle`. -/
def idle : Bool :=
  Table.isEmpty owner.state.tasks && Table.isEmpty owner.state.activities

/-- `OwnerState::runtimes`: the registered runtimes that are not closed. -/
def runtimes (closed : RuntimeRef → Bool) : List RuntimeRef :=
  (Table.values owner.state.runtimes).filter fun runtime =>
    !closed runtime

/-- The locked block of `shutdown_owner`. -/
def cutoff (localOpen : RuntimeRef → Bool) :
    OwnerState × Except String Snapshot :=
  if (Table.values owner.state.runtimes).any localOpen then
    (owner, .error
      "LocalRuntime must be dropped on its originating thread before owner shutdown")
  else
    ({ owner with accepting := false }, .ok
      { tasks := (Table.values owner.state.tasks).filterMap id
        resources := Table.values owner.state.resources
        activities := owner.activityWakers })

def detach (runtimeClosed : RuntimeRef → Bool)
    (resourceClosed : ResourceRef → Bool) :
    OwnerState × Except String Unit :=
  if owner.isAccepting || !Table.isEmpty owner.state.tasks ||
      !Table.isEmpty owner.state.activities then
    (owner, .error "Tokio owner must shut down before detaching")
  else if
    (Table.values owner.state.runtimes).any
        (fun runtime => !runtimeClosed runtime) ||
      (Table.values owner.state.resources).any
        (fun resource => !resourceClosed resource) then
    (owner, .error "Tokio owner has live runtime resources")
  else
    ({ owner with
        state :=
          { owner.state with
            handles := ∅
            runtimes := ∅
            resources := ∅ } },
      .ok ())

variable {owner}

theorem callback_eq_some {waker : Waker} {id : Nat}
    (admitted : (owner.callback waker).2 = some id) :
    owner.accepting = true ∧ id = owner.state.nextId ∧
      (owner.callback waker).1 = owner.addActivity (some waker) := by
  by_cases running : owner.accepting = true
  · refine ⟨running, ?_, by simp [callback, isAccepting, running]⟩
    simpa [callback, isAccepting, running] using admitted.symm
  · simp [callback, isAccepting, running] at admitted

theorem activity_eq_ok {id : Nat} (admitted : owner.activity.2 = .ok id) :
    owner.accepting = true ∧ id = owner.state.nextId ∧
      owner.activity.1 = owner.addActivity none := by
  by_cases running : owner.accepting = true
  · refine ⟨running, ?_, by simp [activity, isAccepting, running]⟩
    simpa [activity, isAccepting, running] using admitted.symm
  · simp [activity, isAccepting, running] at admitted

theorem updateActivityWaker_eq_true {id : Nat} {waker : Waker} :
    (owner.updateActivityWaker id waker).2 = true ↔
      owner.accepting = true := by
  by_cases running : owner.accepting = true
  · simp [updateActivityWaker, isAccepting, running]
  · simp [updateActivityWaker, isAccepting, running]

theorem reserveTask_eq_ok {id : Nat}
    (accepted : (owner.reserveTask id).2 = .ok ()) :
    owner.accepting = true ∧ id ∉ owner.state.tasks ∧
      (owner.reserveTask id).1 =
        owner.setTasks (owner.state.tasks.insert id none) := by
  by_cases running : owner.accepting = true
  · by_cases present : id ∈ owner.state.tasks
    · simp [reserveTask, isAccepting, running, present] at accepted
    · simp [reserveTask, isAccepting, running, present]
  · simp [reserveTask, isAccepting, running] at accepted

/-- A refused reservation leaves the owner as it is. -/
theorem reserveTask_eq_error {id : Nat} {error : String}
    (refused : (owner.reserveTask id).2 = .error error) :
    (owner.reserveTask id).1 = owner := by
  by_cases running : owner.accepting = true
  · by_cases present : id ∈ owner.state.tasks
    · simp [reserveTask, isAccepting, running, present]
    · simp [reserveTask, isAccepting, running, present] at refused
  · simp [reserveTask, isAccepting, running]

theorem cutoff_eq_ok {localOpen : RuntimeRef → Bool} {snapshot : Snapshot}
    (succeeded : (owner.cutoff localOpen).2 = .ok snapshot) :
    (owner.cutoff localOpen).1 = { owner with accepting := false } ∧
      snapshot =
        { tasks := (Table.values owner.state.tasks).filterMap id
          resources := Table.values owner.state.resources
          activities := owner.activityWakers } ∧
      (Table.values owner.state.runtimes).any localOpen = false := by
  cases blocked : (Table.values owner.state.runtimes).any localOpen with
  | true => simp [cutoff, blocked] at succeeded
  | false =>
      refine ⟨by simp [cutoff, blocked], ?_, rfl⟩
      simpa [cutoff, blocked] using succeeded.symm

/-- A refused cutoff leaves the owner as it is. -/
theorem cutoff_eq_error {localOpen : RuntimeRef → Bool} {error : String}
    (refused : (owner.cutoff localOpen).2 = .error error) :
    (owner.cutoff localOpen).1 = owner := by
  cases blocked : (Table.values owner.state.runtimes).any localOpen with
  | true => simp [cutoff, blocked]
  | false => simp [cutoff, blocked] at refused

end OwnerState

end Telekio.Owner
