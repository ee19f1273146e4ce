import Telekio.Interleave.Ownership
import Telekio.Observers.System

/-!
# What the threads have been given

The core of a worker, the number of a tenure and the id of an unfinished
`add` are each with one thread, and whatever a thread has in hand has been
given out before.
-/

namespace Telekio.Observers

open Telekio.Interleave

variable {world : World} {shared : Shared} {op : Op}
variable {tenure : Tenure} {stage : Stage} {next : Thread}

namespace Stage

/-- The thread has the core of its worker. -/
def core : Stage → Bool
  | .blocked => false
  | .adding _ _ core => core
  | _ => true

/-- The observers that the thread is about to call with its worker. -/
def calls : Stage → List Nat
  | .starting calls | .ticking calls _ => calls
  | .adding id true _ => [id]
  | _ => []

/-- The observers that the thread has in hand. -/
def ids : Stage → List Nat
  | .starting calls | .ticking calls _ => calls
  | .adding id _ _ => [id]
  | _ => []

theorem mem_ids_of_calls {stage : Stage} {id : Nat}
    (called : id ∈ stage.calls) : id ∈ stage.ids := by
  cases stage with
  | adding other told core =>
      cases told
      · cases called
      · exact called
  | _ => exact called

/-- The ids that the running tick covers. -/
def seen : Stage → Finset Nat
  | .swapped seen | .ticking _ seen => seen
  | _ => ∅

/-- The ids that the running tick covers and has taken. -/
def passed : Stage → Finset Nat
  | .ticking _ seen => seen
  | _ => ∅

theorem mem_seen_of_passed {stage : Stage} {id : Nat}
    (passed : id ∈ stage.passed) : id ∈ stage.seen := by
  cases stage with
  | ticking => exact passed
  | _ => cases passed

end Stage

namespace Thread

def cores (worker : Nat) : Thread → Prop
  | .worker tenure stage => tenure.worker = worker ∧ stage.core = true
  | _ => False

def numbered (number : Nat) : Thread → Prop
  | .worker tenure _ => tenure.number = number
  | _ => False

end Thread

attribute [local simp] Thread.cores Thread.numbered Op.apply
  Stage.core Stage.back Tenure.hear Tenure.cover Function.update_apply
  program

/-- The core of a worker is in its slot or with one thread, or lost. -/
theorem coreOwning : program.Owning
    (fun shared worker => shared.core worker = false)
    (fun thread worker => thread.cores worker) where
  starts := by
    rintro first worker rfl
    exact id
  acquires := by
    intro world thread current op next worker _ _ acts owned
    cases acts with
    | worker acts =>
        cases acts with
        | @unwindAdding _ core | @added _ core =>
            cases core <;> simp_all
        | _ => simp_all
    | _ => simp_all
  keeps := by
    intro world thread current op next worker _ _ acts before owned
    cases acts with
    | worker acts =>
        cases acts with
        | @unwindAdding _ core | @added _ core =>
            cases core <;> simp_all
        | _ => simp_all
    | _ => simp_all
  releases := by
    intro world thread current op next worker _ _ acts there gone
    cases acts with
    | worker acts => cases acts <;> simp_all
    | _ => simp_all

/-- No two tenures have the same number. -/
theorem numberOwning : program.Owning
    (fun shared number => number < shared.tenures)
    (fun thread number => thread.numbered number) where
  starts := by
    rintro first number rfl
    exact id
  acquires := by
    intro world thread current op next number _ _ acts owned
    cases acts with
    | worker acts => cases acts <;> simp_all
    | _ => simp_all
  keeps := by
    intro world thread current op next number _ _ acts before owned
    cases acts with
    | worker acts => cases acts <;> simp_all
    | _ => simp_all
  releases := by
    intro world thread current op next number _ _ acts there gone
    cases acts with
    | worker acts => cases acts <;> simp_all
    | run => exact absurd (Nat.lt_succ_of_lt there) gone
    | _ => exact absurd there gone

/-! ## What has been given out -/

/-- Every id and every number in the shared state has been given out. -/
structure Shared.Sound (shared : Shared) : Prop where
  observers : ∀ id ∈ shared.state.observers, id < shared.state.nextId
  pending : ∀ worker, ∀ id ∈ shared.state.pending worker,
    id < shared.state.nextId
  returned : ∀ id ∈ shared.returned, id < shared.state.nextId
  tenant : ∀ worker number, shared.tenant worker = some number →
    number < shared.tenures
  core : ∀ worker, shared.core worker = true →
    worker < shared.state.workers

/-- The same of a tenure. -/
structure Tenure.Fits (shared : Shared) (tenure : Tenure)
    (stage : Stage) : Prop where
  worker : tenure.worker < shared.state.workers
  number : tenure.number < shared.tenures
  heard : ∀ id ∈ tenure.heard, id < shared.state.nextId
  ids : ∀ id ∈ stage.ids, id < shared.state.nextId
  covered : ∀ id ∈ tenure.covered, id ∈ shared.returned
  seen : ∀ id ∈ stage.seen, id ∈ shared.returned

def Thread.Fits (shared : Shared) : Thread → Prop
  | .outside => True
  | .adding id => id < shared.state.nextId
  | .worker tenure stage => tenure.Fits shared stage

/-- What no step undoes. -/
structure Later (before after : Shared) : Prop where
  workers : after.state.workers = before.state.workers
  nextId : before.state.nextId ≤ after.state.nextId
  tenures : before.tenures ≤ after.tenures
  returned : ∀ id ∈ before.returned, id ∈ after.returned

theorem later_apply (op : Op) (shared : Shared) :
    Later shared (op.apply shared) := by
  cases op with
  | add | addAsWorker =>
      exact ⟨rfl, Nat.le_succ _, Nat.le_refl _, fun _ => id⟩
  | takeCore => exact ⟨rfl, Nat.le_refl _, Nat.le_succ _, fun _ => id⟩
  | returned other =>
      exact ⟨rfl, Nat.le_refl _, Nat.le_refl _,
        fun _ => Finset.mem_insert_of_mem⟩
  | _ => exact ⟨rfl, Nat.le_refl _, Nat.le_refl _, fun _ => id⟩

theorem Thread.Fits.later {found : Thread} {before after : Shared}
    (fits : found.Fits before) (later : Later before after) :
    found.Fits after := by
  cases found with
  | outside => trivial
  | adding id => exact Nat.lt_of_lt_of_le fits later.nextId
  | worker tenure stage =>
      have issued : ∀ id, id < before.state.nextId →
          id < after.state.nextId :=
        fun id below => Nat.lt_of_lt_of_le below later.nextId
      exact
        { worker := by rw [later.workers]; exact fits.worker
          number := Nat.lt_of_lt_of_le fits.number later.tenures
          heard := fun id heard => issued id (fits.heard id heard)
          ids := fun id inHand => issued id (fits.ids id inHand)
          covered := fun id covered =>
            later.returned id (fits.covered id covered)
          seen := fun id seen => later.returned id (fits.seen id seen) }

namespace Tenure.Fits

variable {next : Stage} {id : Nat}

/-- The stage changes. -/
theorem moved (fits : tenure.Fits shared stage)
    (ids : ∀ id ∈ next.ids, id < shared.state.nextId)
    (seen : ∀ id ∈ next.seen, id ∈ shared.returned) :
    tenure.Fits shared next :=
  { fits with
    ids := ids
    seen := seen }

/-- An observer in hand is called. -/
theorem hear (fits : tenure.Fits shared stage) (called : id ∈ stage.ids)
    (ids : ∀ id ∈ next.ids, id ∈ stage.ids)
    (seen : ∀ id ∈ next.seen, id ∈ stage.seen) :
    (tenure.hear id).Fits shared next :=
  { fits with
    heard := by
      intro other heard
      rcases List.mem_cons.mp heard with rfl | old
      · exact fits.ids other called
      · exact fits.heard other old
    ids := fun other inHand => fits.ids other (ids other inHand)
    seen := fun other member => fits.seen other (seen other member) }

/-- A tick is complete. -/
theorem cover (fits : tenure.Fits shared stage) {ids : Finset Nat}
    (covered : ∀ id ∈ ids, id ∈ shared.returned) :
    (tenure.cover ids).Fits shared .polling :=
  { fits with
    ids := nofun
    covered := covered
    seen := nofun }

end Tenure.Fits

theorem Shared.Initial.sound (initial : shared.Initial) :
    shared.Sound := by
  obtain ⟨state, core, tenures, tenant, returned⟩ := initial
  refine ⟨?_, ?_, ?_, ?_, core⟩
  · rw [state]
    exact nofun
  · rw [state]
    exact nofun
  · rw [returned]
    exact nofun
  · intro worker number found
    rw [tenant worker] at found
    cases found

theorem sound_add (sound : shared.Sound) (current : Option Nat) :
    Shared.Sound { shared with state := shared.state.add current } :=
  { sound with
    observers := by
      intro id registered
      rcases Finset.mem_insert.mp registered with rfl | old
      · exact Nat.lt_succ_self _
      · exact Nat.lt_succ_of_lt (sound.observers id old)
    pending := by
      intro worker id member
      simp only [WorkerObservers.add] at member
      split at member
      · rcases List.mem_append.mp member with old | new
        · exact Nat.lt_succ_of_lt (sound.pending worker id old)
        · rw [List.mem_singleton.mp new]
          exact Nat.lt_succ_self _
      · exact Nat.lt_succ_of_lt (sound.pending worker id member)
    returned := fun id returned =>
      Nat.lt_succ_of_lt (sound.returned id returned) }

theorem sound_remove (sound : shared.Sound) (id : Nat) :
    Shared.Sound { shared with state := shared.state.remove id } :=
  { sound with
    observers := fun other registered =>
      sound.observers other (Finset.mem_of_mem_erase registered)
    pending := fun worker other member =>
      sound.pending worker other (List.mem_filter.mp member).1 }

/-- Emptying the pending list of a worker. -/
theorem sound_take (sound : shared.Sound) (worker : Nat) :
    Shared.Sound { shared with state := shared.state.take worker } :=
  { sound with
    pending := by
      intro other id member
      simp only [WorkerObservers.take, Function.update_apply] at member
      split at member
      · cases member
      · exact sound.pending other id member }

theorem sound_start (sound : shared.Sound) (worker : Nat) {number : Nat}
    (known : number < shared.tenures) :
    ((Op.start worker number).apply shared).Sound :=
  { sound with
    pending := (sound_take sound worker).pending
    tenant := by
      intro other found same
      simp only [Op.apply, Function.update_apply] at same
      split at same
      · cases same
        exact known
      · exact sound.tenant other found same }

theorem sound_of_acts {current : Thread}
    (acts : Thread.Acts shared current op next) (sound : shared.Sound)
    (fits : current.Fits shared) : (op.apply shared).Sound := by
  cases acts with
  | run there =>
      exact
        { sound with
          tenant := fun worker number found =>
            Nat.lt_succ_of_lt (sound.tenant worker number found)
          core := by
            intro worker found
            refine sound.core worker ?_
            simp only [Op.apply, Function.update_apply] at found
            split at found
            · cases found
            · exact found }
  | add => exact sound_add sound none
  | added =>
      exact
        { sound with
          returned := by
            intro id returned
            rcases Finset.mem_insert.mp returned with rfl | old
            · exact fits
            · exact sound.returned id old }
  | remove => exact sound_remove sound _
  | worker acts =>
      cases acts with
      | start => exact sound_start sound _ fits.number
      | tickEarly | swap => exact { sound with }
      | take => exact sound_take sound _
      | blockInPlace =>
          exact
            { sound with
              core := by
                intro worker found
                simp only [Op.apply, Function.update_apply] at found
                split at found
                · next same =>
                    rw [same]
                    exact fits.worker
                · exact sound.core worker found }
      | retake there =>
          exact
            { sound with
              core := by
                intro worker found
                refine sound.core worker ?_
                simp only [Op.apply, Function.update_apply] at found
                split at found
                · cases found
                · exact found }
      | add | addBlocked | addElsewhere => exact sound_add sound _
      | added =>
          exact
            { sound with
              returned := by
                intro id returned
                rcases Finset.mem_insert.mp returned with rfl | old
                · exact fits.ids _ (List.mem_singleton_self _)
                · exact sound.returned id old }
      | remove | removeBlocked => exact sound_remove sound _
      | _ => exact sound

theorem fits_of_acts {current : Thread}
    (acts : Thread.Acts shared current op next) (sound : shared.Sound)
    (fits : current.Fits shared) : next.Fits (op.apply shared) := by
  have later := later_apply op shared
  have kept := fits.later later
  cases acts with
  | run there =>
      exact
        { worker := sound.core _ there
          number := Nat.lt_succ_self _
          heard := nofun
          ids := nofun
          covered := nofun
          seen := nofun }
  | add => exact Nat.lt_succ_self _
  | added | remove => trivial
  | worker acts =>
      have fresh : ∀ id ∈ [shared.state.nextId],
          id < shared.state.nextId + 1 := by
        intro id member
        rw [List.mem_singleton.mp member]
        exact Nat.lt_succ_self _
      cases acts with
      | start distinct all =>
          refine kept.moved ?_ nofun
          intro id called
          refine sound.observers id ?_
          rw [← all]
          exact List.mem_toFinset.mpr called
      | callStarting =>
          exact kept.hear List.mem_cons_self
            (fun _ => List.mem_cons_of_mem _) nofun
      | started | blockInPlace | retake => exact kept.moved nofun nofun
      | tickEarly => exact kept.cover fun _ => id
      | swap => exact kept.moved nofun fun _ => id
      | take =>
          refine kept.moved ?_ kept.seen
          intro id called
          exact sound.pending _ id (List.mem_filter.mp called).1
      | callTicking =>
          exact kept.hear List.mem_cons_self
            (fun _ => List.mem_cons_of_mem _) (fun _ => id)
      | ticked => exact kept.cover kept.seen
      | unwindStarting | unwindTicking | shutdown | leave => trivial
      | add | addBlocked | addElsewhere => exact kept.moved fresh nofun
      | callAdding =>
          exact kept.hear (List.mem_singleton_self _) (fun _ => id) nofun
      | @unwindAdding _ core =>
          cases core with
          | true => exact kept.hear (List.mem_singleton_self _) nofun nofun
          | false => exact kept.hear (List.mem_singleton_self _) nofun nofun
      | @added _ core =>
          cases core with
          | true => exact kept.moved nofun nofun
          | false => exact kept.moved nofun nofun
      | remove | removeBlocked => exact kept

theorem fits_of_reachable (reached : program.Reachable world) :
    world.shared.Sound ∧ ∀ thread found,
      world.threads thread = some found → found.Fits world.shared := by
  refine Program.fits_invariant Shared.Sound Thread.Fits
    (fun _ => Shared.Initial.sound) ?_ ?_ ?_ reached
  · rintro shared first _ rfl
    trivial
  · intro world thread current op next _ _ acts sound fits
    exact ⟨sound_of_acts acts sound fits, fits_of_acts acts sound fits⟩
  · intro world thread bystander current op next held _ _ _ _ _ _ _ here
    exact here.later (later_apply op world.shared)

end Telekio.Observers
