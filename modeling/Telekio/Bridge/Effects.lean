import Telekio.Bridge.Operation

/-!
# What an operation can do

`OwnerChange` says once what each operation can do to the owner. The lemmas
below read off, for every part of the shared state, what an operation can
change there; the proofs about threads use these and never unfold `Op.apply`.
-/

namespace Telekio.Bridge

open Telekio.Interleave
open Telekio.Owner

/-- The owner after an operation, with the guards that were passed. -/
inductive OwnerChange (shared : Shared) : Op → OwnerState → Prop
  | same (op : Op) : OwnerChange shared op shared.owner
  | callback (waker : Waker) (running : shared.accepting = true) :
      OwnerChange shared (.callback waker)
        (shared.owner.addActivity (some waker))
  | activity (running : shared.accepting = true) :
      OwnerChange shared .activity (shared.owner.addActivity none)
  | updateActivityWaker (id : Nat) (waker : Waker)
      (running : shared.accepting = true) :
      OwnerChange shared (.updateActivityWaker id waker)
        { shared.owner with
          state :=
            { shared.owner.state with
              activities :=
                Table.assign id (some waker) shared.activities } }
  | removeActivity (id : Nat) :
      OwnerChange shared (.removeActivity id)
        (shared.owner.removeActivity id)
  | notifyWaiters :
      OwnerChange shared .notifyWaiters shared.owner.notifyWaiters
  | handles (op : Op) (handles : Table HandleRecord) :
      OwnerChange shared op
        { shared.owner with
          state := { shared.owner.state with handles := handles } }
  | reserveTask (id : Nat) (running : shared.accepting = true)
      (absent : shared.tasks.lookup id = none) :
      OwnerChange shared (.reserveTask id)
        (shared.owner.setTasks (shared.tasks.insert id none))
  | registerTask (id : Nat) (handle : AbortHandle) :
      OwnerChange shared (.registerTask id handle)
        (shared.owner.setTasks
          (Table.assign id (some handle) shared.tasks))
  | removeTask (id : Nat) :
      OwnerChange shared (.removeTask id) (shared.owner.removeTask id)
  | registerRuntime (runtime : RuntimeRef)
      (running : shared.accepting = true) :
      OwnerChange shared (.registerRuntime runtime)
        { shared.owner with
          state :=
            { shared.owner.state with
              nextId := shared.nextId + 1
              runtimes :=
                shared.owner.state.runtimes.insert shared.nextId
                  runtime } }
  | unregisterRuntime (id : Nat) :
      OwnerChange shared (.unregisterRuntime id)
        (shared.owner.unregisterRuntime id)
  | registerResource (resource : ResourceRef)
      (running : shared.accepting = true) :
      OwnerChange shared (.registerResource resource)
        { shared.owner with
          state :=
            { shared.owner.state with
              nextId := shared.nextId + 1
              resources :=
                shared.owner.state.resources.insert shared.nextId
                  resource } }
  | unregisterResource (id : Nat) :
      OwnerChange shared (.unregisterResource id)
        (shared.owner.unregisterResource id)
  | cutoff
      (noLocal : (Table.values shared.owner.state.runtimes).any
        shared.localOpen = false) :
      OwnerChange shared .cutoff { shared.owner with accepting := false }
  | detach :
      OwnerChange shared .detach
        { shared.owner with
          state :=
            { shared.owner.state with
              handles := ∅
              runtimes := ∅
              resources := ∅ } }

theorem ownerChange_apply (op : Op) (shared : Shared) :
    OwnerChange shared op (op.apply shared).owner := by
  cases op with
  | callback waker =>
      by_cases running : shared.accepting = true
      · simpa [Op.apply, Op.owner, OwnerState.callback,
          OwnerState.isAccepting, running] using
          OwnerChange.callback waker running
      · simpa [Op.apply, Op.owner, OwnerState.callback,
          OwnerState.isAccepting, running] using
          OwnerChange.same (.callback waker)
  | activity =>
      by_cases running : shared.accepting = true
      · simpa [Op.apply, Op.owner, OwnerState.activity,
          OwnerState.isAccepting, running] using
          OwnerChange.activity running
      · simpa [Op.apply, Op.owner, OwnerState.activity,
          OwnerState.isAccepting, running] using
          OwnerChange.same .activity
  | updateActivityWaker id waker =>
      by_cases running : shared.accepting = true
      · simpa [Op.apply, Op.owner, OwnerState.updateActivityWaker,
          OwnerState.isAccepting, running] using
          OwnerChange.updateActivityWaker id waker running
      · simpa [Op.apply, Op.owner, OwnerState.updateActivityWaker,
          OwnerState.isAccepting, running] using
          OwnerChange.same (.updateActivityWaker id waker)
  | removeActivity id => exact .removeActivity id
  | notifyWaiters => exact .notifyWaiters
  | exportHandle context handle => exact .handles _ _
  | retainHandle context =>
      simp only [Op.apply, Op.owner, OwnerState.retainHandle]
      split
      · exact .same _
      · exact .handles _ _
  | releaseHandle context =>
      simp only [Op.apply, Op.owner, OwnerState.releaseHandle]
      split
      · exact .same _
      · split
        · exact .same _
        · split
          · exact .handles _ _
          · exact .handles _ _
  | reserveTask id =>
      by_cases running : shared.accepting = true
      · by_cases absent : id ∈ shared.tasks
        · simpa [Op.apply, Op.owner, OwnerState.reserveTask,
            OwnerState.isAccepting, running, absent] using
            OwnerChange.same (.reserveTask id)
        · simpa [Op.apply, Op.owner, OwnerState.reserveTask,
            OwnerState.isAccepting, running, absent] using
            OwnerChange.reserveTask id running
              (AList.lookup_eq_none.mpr absent)
      · simpa [Op.apply, Op.owner, OwnerState.reserveTask,
          OwnerState.isAccepting, running] using
          OwnerChange.same (.reserveTask id)
  | registerTask id handle => exact .registerTask id handle
  | removeTask id => exact .removeTask id
  | registerRuntime runtime =>
      by_cases running : shared.accepting = true
      · simpa [Op.apply, Op.owner, OwnerState.registerRuntime,
          OwnerState.isAccepting, running] using
          OwnerChange.registerRuntime runtime running
      · simpa [Op.apply, Op.owner, OwnerState.registerRuntime,
          OwnerState.isAccepting, running] using
          OwnerChange.same (.registerRuntime runtime)
  | unregisterRuntime id => exact .unregisterRuntime id
  | registerResource resource =>
      by_cases running : shared.accepting = true
      · simpa [Op.apply, Op.owner, OwnerState.registerResource,
          OwnerState.isAccepting, running] using
          OwnerChange.registerResource resource running
      · simpa [Op.apply, Op.owner, OwnerState.registerResource,
          OwnerState.isAccepting, running] using
          OwnerChange.same (.registerResource resource)
  | unregisterResource id => exact .unregisterResource id
  | cutoff =>
      simp only [Op.apply, Op.owner, OwnerState.cutoff]
      split
      · exact .same _
      · rename_i noLocal
        exact .cutoff (by simpa using noLocal)
  | detach =>
      simp only [Op.apply, Op.owner, OwnerState.detach]
      split
      · exact .same _
      · split
        · exact .same _
        · exact .detach
  | _ => exact .same _

namespace OwnerChange

variable {shared : Shared} {op : Op} {owner : OwnerState} {id : Nat}

theorem refuses (change : OwnerChange shared op owner)
    (refusing : shared.accepting = false) :
    owner.accepting = false := by
  cases change <;> first | exact refusing | rfl

theorem cutoff_of_refuses (change : OwnerChange shared op owner)
    (accepted : shared.accepting = true)
    (refusing : owner.accepting = false) :
    op = .cutoff ∧ owner = { shared.owner with accepting := false } ∧
      (Table.values shared.owner.state.runtimes).any
        shared.localOpen = false := by
  cases change with
  | cutoff noLocal => exact ⟨rfl, rfl, noLocal⟩
  | _ => exact absurd (accepted.symm.trans refusing) (by decide)

theorem nextId_le (change : OwnerChange shared op owner) :
    shared.nextId ≤ owner.state.nextId := by
  cases change <;> first | exact Nat.le_refl _ | exact Nat.le_succ _

theorem notify_le (change : OwnerChange shared op owner) :
    shared.owner.notify ≤ owner.notify := by
  cases change <;> first | exact Nat.le_refl _ | exact Nat.le_succ _

/-- Where a task record comes from. -/
theorem task_after (change : OwnerChange shared op owner)
    {slot : Option AbortHandle}
    (found : owner.state.tasks.lookup id = some slot) :
    shared.tasks.lookup id = some slot ∨
      (op = .reserveTask id ∧ slot = none ∧
        shared.accepting = true ∧ shared.tasks.lookup id = none) ∨
      ∃ handle, op = .registerTask id handle ∧ slot = some handle ∧
        (shared.tasks.lookup id).isSome := by
  cases change with
  | reserveTask key running absent =>
      rw [OwnerState.setTasks, Table.lookup_insert_eq] at found
      split at found
      · rename_i same
        subst same
        exact Or.inr (Or.inl
          ⟨rfl, (Option.some.inj found).symm, running, absent⟩)
      · exact Or.inl found
  | registerTask key handle =>
      rw [OwnerState.setTasks, Table.lookup_assign_eq] at found
      split at found
      · rename_i same
        obtain ⟨rfl, present⟩ := same
        exact Or.inr (Or.inr
          ⟨handle, rfl, (Option.some.inj found).symm, present⟩)
      · exact Or.inl found
  | removeTask key =>
      rw [OwnerState.removeTask, OwnerState.setTasks,
        Table.lookup_erase_eq] at found
      split at found
      · cases found
      · exact Or.inl found
  | _ => exact Or.inl found

/-- What becomes of a task record. -/
theorem task_before (change : OwnerChange shared op owner)
    {slot : Option AbortHandle}
    (found : shared.tasks.lookup id = some slot) :
    owner.state.tasks.lookup id = some slot ∨
      (op = .removeTask id ∧ owner.state.tasks.lookup id = none) ∨
      ∃ handle, op = .registerTask id handle ∧
        owner.state.tasks.lookup id = some (some handle) := by
  cases change with
  | reserveTask key running absent =>
      rw [OwnerState.setTasks, Table.lookup_insert_eq]
      split
      · rename_i same
        subst same
        rw [absent] at found
        cases found
      · exact Or.inl found
  | registerTask key handle =>
      rw [OwnerState.setTasks, Table.lookup_assign_eq]
      split
      · rename_i same
        obtain ⟨rfl, present⟩ := same
        exact Or.inr (Or.inr ⟨handle, rfl, rfl⟩)
      · exact Or.inl found
  | removeTask key =>
      rw [OwnerState.removeTask, OwnerState.setTasks,
        Table.lookup_erase_eq]
      split
      · rename_i same
        subst same
        exact Or.inr (Or.inl ⟨rfl, rfl⟩)
      · exact Or.inl found
  | _ => exact Or.inl found

/-! ## Activities -/

/-- Where an activity record comes from. -/
theorem activity_after (change : OwnerChange shared op owner)
    {slot : Option Waker}
    (found : owner.state.activities.lookup id = some slot) :
    shared.activities.lookup id = some slot ∨
      (((∃ waker, op = .callback waker ∧ slot = some waker) ∨
          (op = .activity ∧ slot = none)) ∧
        shared.accepting = true ∧ id = shared.nextId) ∨
      ∃ waker, op = .updateActivityWaker id waker ∧
        slot = some waker ∧ shared.accepting = true ∧
        (shared.activities.lookup id).isSome := by
  cases change with
  | callback waker running =>
      rw [OwnerState.addActivity, Table.lookup_insert_eq] at found
      split at found
      · rename_i same
        exact Or.inr (Or.inl
          ⟨Or.inl ⟨waker, rfl, (Option.some.inj found).symm⟩, running,
            same⟩)
      · exact Or.inl found
  | activity running =>
      rw [OwnerState.addActivity, Table.lookup_insert_eq] at found
      split at found
      · rename_i same
        exact Or.inr (Or.inl
          ⟨Or.inr ⟨rfl, (Option.some.inj found).symm⟩, running, same⟩)
      · exact Or.inl found
  | updateActivityWaker key waker running =>
      rw [Table.lookup_assign_eq] at found
      split at found
      · rename_i same
        obtain ⟨rfl, present⟩ := same
        exact Or.inr (Or.inr
          ⟨waker, rfl, (Option.some.inj found).symm, running, present⟩)
      · exact Or.inl found
  | removeActivity key =>
      rw [OwnerState.removeActivity, Table.lookup_erase_eq] at found
      split at found
      · cases found
      · exact Or.inl found
  | _ => exact Or.inl found

/-- What becomes of an activity record. -/
theorem activity_before (change : OwnerChange shared op owner)
    {slot : Option Waker} (bounded : id < shared.nextId)
    (found : shared.activities.lookup id = some slot) :
    owner.state.activities.lookup id = some slot ∨
      (op = .removeActivity id ∧
        owner.state.activities.lookup id = none) ∨
      ∃ waker, op = .updateActivityWaker id waker ∧
        shared.accepting = true ∧
        owner.state.activities.lookup id = some (some waker) := by
  have different : id ≠ shared.nextId := Nat.ne_of_lt bounded
  cases change with
  | callback waker running =>
      rw [OwnerState.addActivity, Table.lookup_insert_eq,
        if_neg different]
      exact Or.inl found
  | activity running =>
      rw [OwnerState.addActivity, Table.lookup_insert_eq,
        if_neg different]
      exact Or.inl found
  | updateActivityWaker key waker running =>
      rw [Table.lookup_assign_eq]
      split
      · rename_i same
        obtain ⟨rfl, present⟩ := same
        exact Or.inr (Or.inr ⟨waker, rfl, running, rfl⟩)
      · exact Or.inl found
  | removeActivity key =>
      rw [OwnerState.removeActivity, Table.lookup_erase_eq]
      split
      · rename_i same
        subst same
        exact Or.inr (Or.inl ⟨rfl, rfl⟩)
      · exact Or.inl found
  | _ => exact Or.inl found

/-- Records stay below the next id. -/
theorem activity_lt_nextId (change : OwnerChange shared op owner)
    (bounded : ∀ id slot, shared.activities.lookup id = some slot →
      id < shared.nextId)
    {slot : Option Waker}
    (found : owner.state.activities.lookup id = some slot) :
    id < owner.state.nextId := by
  rcases change.activity_after found with
    old | ⟨added, running, rfl⟩ | ⟨waker, rfl, _, _, present⟩
  · exact Nat.lt_of_lt_of_le (bounded id slot old) change.nextId_le
  · rcases added with ⟨waker, rfl, rfl⟩ | ⟨rfl, rfl⟩
    · cases change with
      | callback => exact Nat.lt_succ_self _
      | same | handles =>
          exact absurd (bounded _ _ found) (Nat.lt_irrefl _)
    · cases change with
      | activity => exact Nat.lt_succ_self _
      | same | handles =>
          exact absurd (bounded _ _ found) (Nat.lt_irrefl _)
  · obtain ⟨before, old⟩ := Option.isSome_iff_exists.mp present
    exact Nat.lt_of_lt_of_le (bounded id before old) change.nextId_le

theorem runtime_after (change : OwnerChange shared op owner)
    {runtime : RuntimeRef}
    (found : owner.state.runtimes.lookup id = some runtime) :
    shared.owner.state.runtimes.lookup id = some runtime ∨
      (op = .registerRuntime runtime ∧ shared.accepting = true ∧
        id = shared.nextId) := by
  cases change with
  | registerRuntime added running =>
      rw [Table.lookup_insert_eq] at found
      split at found
      · rename_i same
        cases Option.some.inj found
        exact Or.inr ⟨rfl, running, same⟩
      · exact Or.inl found
  | unregisterRuntime key =>
      rw [OwnerState.unregisterRuntime, Table.lookup_erase_eq] at found
      split at found
      · cases found
      · exact Or.inl found
  | detach => cases found
  | _ => exact Or.inl found

theorem resource_after (change : OwnerChange shared op owner)
    {resource : ResourceRef}
    (found : owner.state.resources.lookup id = some resource) :
    shared.owner.state.resources.lookup id = some resource ∨
      (op = .registerResource resource ∧ shared.accepting = true ∧
        id = shared.nextId) := by
  cases change with
  | registerResource added running =>
      rw [Table.lookup_insert_eq] at found
      split at found
      · rename_i same
        cases Option.some.inj found
        exact Or.inr ⟨rfl, running, same⟩
      · exact Or.inl found
  | unregisterResource key =>
      rw [OwnerState.unregisterResource, Table.lookup_erase_eq] at found
      split at found
      · cases found
      · exact Or.inl found
  | detach => cases found
  | _ => exact Or.inl found

end OwnerChange

/-- An operation that makes an object makes it at a fresh address. -/
def Op.Fresh (op : Op) (shared : Shared) : Prop :=
  match op with
  | .hostSpawn handle => shared.hostTasks handle = none
  | .newRuntime runtime _ => shared.runtimes runtime = none
  | .newResource resource => shared.resources resource = none
  | .newDeferred address _ => shared.deferreds address = none
  | .exportHandle context _ => shared.contexts context = none
  | _ => True

section Objects

variable {op : Op} {shared : Shared}

theorem aborted_apply {handle : AbortHandle}
    (fresh : op.Fresh shared)
    (already : shared.aborted handle) :
    (op.apply shared).aborted handle := by
  have known : shared.hostTasks handle = some true := already
  change op.hostTasks shared handle = some true
  cases op with
  | hostSpawn other =>
      have different : handle ≠ other := by
        rintro rfl
        exact absurd (known.symm.trans fresh) (by simp)
      simpa [Op.hostTasks, different] using known
  | abort other =>
      by_cases same : handle = other
      · simp [Op.hostTasks, same]
      · simpa [Op.hostTasks, same] using known
  | registerTask id other =>
      by_cases same : handle = other
      · subst same
        by_cases cut : (shared.owner.registerTask id handle).2 = true
        · simp [Op.hostTasks, cut]
        · simpa [Op.hostTasks, cut] using known
      · by_cases cut : (shared.owner.registerTask id other).2 = true
        · simpa [Op.hostTasks, cut, same] using known
        · simpa [Op.hostTasks, cut] using known
  | _ => exact known

theorem woken_apply {waker : Waker}
    (already : shared.woken waker = true) :
    (op.apply shared).woken waker = true := by
  cases op with
  | wake other =>
      by_cases same : waker = other
      · by_cases running : shared.accepting = true
        · simpa [Op.apply, Op.woken, running] using already
        · simp [Op.apply, Op.woken, running, same]
      · by_cases running : shared.accepting = true
        · simpa [Op.apply, Op.woken, running] using already
        · simpa [Op.apply, Op.woken, running, same] using already
  | _ => exact already

theorem runtimeClosed_apply {runtime : RuntimeRef}
    (fresh : op.Fresh shared)
    (closed : shared.runtimeClosed runtime = true) :
    (op.apply shared).runtimeClosed runtime = true := by
  obtain ⟨kind, known, isClosed⟩ := Shared.runtimeClosed_iff.mp closed
  rw [Shared.runtimeClosed_iff]
  change ∃ after, op.runtimes shared runtime = some after ∧
    after.isClosed = true
  cases op with
  | newRuntime other made =>
      have different : runtime ≠ other := by
        rintro rfl
        exact absurd (known.symm.trans fresh) (by simp)
      exact ⟨kind, by simpa [Op.runtimes, different] using known,
        isClosed⟩
  | closeRuntime other thread =>
      by_cases same : runtime = other
      · subst same
        exact ⟨(kind.close thread).1, by simp [Op.runtimes, known],
          RuntimeKind.isClosed_close_of_isClosed thread isClosed⟩
      · exact ⟨kind, by simpa [Op.runtimes, same] using known, isClosed⟩
  | _ => exact ⟨kind, known, isClosed⟩

/-- A resource that was made stays, open or closed. -/
theorem resourceMade_apply {resource : ResourceRef}
    (made : shared.resources resource ≠ none) :
    (op.apply shared).resources resource ≠ none := by
  change op.resources shared resource ≠ none
  cases op with
  | newResource other =>
      by_cases same : resource = other
      · simp [Op.resources, same]
      · simpa [Op.resources, same] using made
  | updateWaker other waker =>
      by_cases same : resource = other
      · subst same; simpa [Op.resources] using made
      · simpa [Op.resources, same] using made
  | takeValue other =>
      by_cases same : resource = other
      · subst same; simpa [Op.resources] using made
      · simpa [Op.resources, same] using made
  | takeWaker other =>
      by_cases same : resource = other
      · subst same; simpa [Op.resources] using made
      · simpa [Op.resources, same] using made
  | _ => exact made

theorem resourceClosed_apply {resource : ResourceRef}
    (fresh : op.Fresh shared)
    (closed : shared.resourceClosed resource = true) :
    (op.apply shared).resourceClosed resource = true := by
  obtain ⟨held, known, isClosed⟩ := Shared.resourceClosed_iff.mp closed
  rw [Shared.resourceClosed_iff]
  change ∃ after, op.resources shared resource = some after ∧
    after.isClosed = true
  cases op with
  | newResource other =>
      have different : resource ≠ other := by
        rintro rfl
        exact absurd (known.symm.trans fresh) (by simp)
      exact ⟨held, by simpa [Op.resources, different] using known,
        isClosed⟩
  | updateWaker other waker =>
      by_cases same : resource = other
      · subst same
        exact ⟨held.updateWaker waker, by simp [Op.resources, known],
          by simpa using isClosed⟩
      · exact ⟨held, by simpa [Op.resources, same] using known,
          isClosed⟩
  | takeValue other =>
      by_cases same : resource = other
      · subst same
        exact ⟨held.takeValue, by simp [Op.resources, known], rfl⟩
      · exact ⟨held, by simpa [Op.resources, same] using known,
          isClosed⟩
  | takeWaker other =>
      by_cases same : resource = other
      · subst same
        exact ⟨held.takeWaker, by simp [Op.resources, known],
          by simpa using isClosed⟩
      · exact ⟨held, by simpa [Op.resources, same] using known,
          isClosed⟩
  | _ => exact ⟨held, known, isClosed⟩

theorem resourceShut_apply {resource : ResourceRef}
    (fresh : op.Fresh shared) (shut : shared.resourceShut resource) :
    (op.apply shared).resourceShut resource := by
  have known : shared.resources resource = some ⟨none, none⟩ := shut
  change op.resources shared resource = some ⟨none, none⟩
  cases op with
  | newResource other =>
      have different : resource ≠ other := by
        rintro rfl
        exact absurd (known.symm.trans fresh) (by simp)
      simpa [Op.resources, different] using known
  | updateWaker other waker =>
      by_cases same : resource = other
      · simp [Op.resources, same ▸ known, HostResource.updateWaker, same]
      · simpa [Op.resources, same] using known
  | takeValue other =>
      by_cases same : resource = other
      · simp [Op.resources, same ▸ known, HostResource.takeValue, same]
      · simpa [Op.resources, same] using known
  | takeWaker other =>
      by_cases same : resource = other
      · simp [Op.resources, same ▸ known, HostResource.takeWaker, same]
      · simpa [Op.resources, same] using known
  | _ => exact known

end Objects

end Telekio.Bridge
