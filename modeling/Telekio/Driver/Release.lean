import Telekio.Driver.Registration

/-!
# Releasing a driver registration

Dropping the `DriverResource` waits for the wakes inside their guards, so
that the guest's callback is not running afterwards. A `release_driver` that
does not drop it, since an owner shutdown holds the resource too, does not
wait.
-/

namespace Telekio.Driver

open Telekio.Interleave
open Telekio.Owner

variable {world : World} {shared : Shared} {op : Op}

theorem guards_of_arm {arm next : Arm} (acts : Arm.Acts shared arm op next)
    (counted : arm.guards ≤ shared.lifecycle.active) :
    (op.apply shared).lifecycle.active + arm.guards =
      shared.lifecycle.active + next.guards := by
  cases acts with
  | enter registered entered =>
      exact WakeLifecycle.active_enter entered
  | refuse refused =>
      change shared.lifecycle.enter.1.active + 0 = _
      rw [WakeLifecycle.enter_of_refused refused]
      rfl
  | leave => exact Nat.sub_add_cancel counted
  | _ => rfl

theorem active_of_deregister {stage next : Deregister}
    (acts : Deregister.Acts shared stage op next) :
    (op.apply shared).lifecycle.active = shared.lifecycle.active := by
  cases acts <;> rfl

/-- The guards that a thread of the program holds. -/
def Thread.guards : Thread → Nat
  | .arm call => call.guards
  | _ => 0

/-- `active` counts the live guards. -/
theorem activeCounting :
    program.Counting (fun shared => shared.lifecycle.active)
      Thread.guards where
  initially := by
    rintro shared ⟨fresh, _⟩
    exact congrArg WakeLifecycle.active fresh
  starts := by
    intro first starts
    cases starts <;> rfl
  moves := by
    intro world thread current op next _ _ acts counted
    cases acts with
    | arm acts => exact guards_of_arm acts counted
    | registrar acts =>
        cases acts with
        | deregister acts => exact active_of_deregister acts
        | _ => rfl
    | closer acts =>
        cases acts with
        | deregister acts => exact active_of_deregister acts
        | _ => rfl

/-- A drained wake source has no wake inside. -/
theorem guards_of_drained (reached : program.Reachable world)
    (drained : world.shared.lifecycle.Drained)
    {thread : Nat} {arm : Arm}
    (running : world.threads thread = some (.arm arm)) :
    arm.guards = 0 :=
  activeCounting.holds_eq_zero reached drained.2 running

theorem drained_apply (drained : shared.lifecycle.Drained) :
    (op.apply shared).lifecycle.Drained := by
  cases op with
  | enter => exact WakeLifecycle.drained_enter drained
  | leave => exact WakeLifecycle.drained_leave drained
  | beginClose => exact WakeLifecycle.drained_beginClose drained
  | _ => exact drained

theorem closing_apply (closing : shared.lifecycle.closing = true) :
    (op.apply shared).lifecycle.closing = true := by
  cases op with
  | enter => exact WakeLifecycle.closing_enter.trans closing
  | beginClose => rfl
  | _ => exact closing

/-- What the stages of a deregistration have achieved. -/
def Deregister.Achieved (shared : Shared) : Deregister → Prop
  | .taken => True
  | .began => shared.lifecycle.closing = true
  | .waited => shared.lifecycle.Drained
  | .dropped => shared.lifecycle.Drained ∧ shared.value = .gone

/-- The deregistration that a thread performs. -/
def Thread.deregistration : Thread → Option Deregister
  | .registrar (.deregistering stage) => some stage
  | .closer (.closing stage) => some stage
  | _ => none

/-- The value is only taken while it is present, and only registered
before. -/
theorem gone_of_acts {current next : Thread}
    (acts : Thread.Acts shared current op next)
    (gone : shared.value = .gone) : (op.apply shared).value = .gone := by
  cases acts with
  | arm acts => cases acts <;> exact gone
  | registrar acts =>
      cases acts with
      | build absent => exact nomatch absent.symm.trans gone
      | take present => exact nomatch present.symm.trans gone
      | deregister acts => cases acts <;> first | exact gone | rfl
      | _ => exact gone
  | closer acts =>
      cases acts with
      | take present => exact nomatch present.symm.trans gone
      | deregister acts => cases acts <;> first | exact gone | rfl
      | _ => exact gone

theorem achieved_of_acts {stage : Deregister} {current next : Thread}
    (acts : Thread.Acts shared current op next)
    (achieved : stage.Achieved shared) :
    stage.Achieved (op.apply shared) := by
  cases stage with
  | taken => trivial
  | began => exact closing_apply achieved
  | waited => exact drained_apply achieved
  | dropped =>
      exact ⟨drained_apply achieved.1, gone_of_acts acts achieved.2⟩

/-- One step of a deregistration. -/
theorem achieved_of_deregister {stage next : Deregister}
    (acts : Deregister.Acts shared stage op next)
    (achieved : stage.Achieved shared) :
    next.Achieved (op.apply shared) := by
  cases acts with
  | beginClose => rfl
  | waitClosed quiet =>
      exact ⟨achieved, of_decide_eq_true quiet⟩
  | dropCallback => exact ⟨achieved, rfl⟩

theorem achieved_of_deregistration (reached : program.Reachable world)
    {thread : Nat} {found : Thread} {stage : Deregister}
    (running : world.threads thread = some found)
    (performs : found.deregistration = some stage) :
    stage.Achieved world.shared := by
  refine Program.thread_invariant
    (fun shared held => ∀ stage, held.deregistration = some stage →
      stage.Achieved shared)
    ?_ ?_ ?_ reached running stage performs
  · intro world first _ starts stage performs
    cases starts <;> cases performs
  · intro world thread current op next _ _ acts earlier stage performs
    cases acts with
    | arm acts => cases performs
    | registrar acts =>
        cases acts with
        | take present =>
            cases performs
            trivial
        | deregister acts =>
            cases performs
            exact achieved_of_deregister acts (earlier _ rfl)
        | _ => cases performs
    | closer acts =>
        cases acts with
        | take present =>
            cases performs
            trivial
        | deregister acts =>
            cases performs
            exact achieved_of_deregister acts (earlier _ rfl)
        | _ => cases performs
  · intro world thread bystander current op next held _ _ _ _ acts
      earlier stage performs
    exact achieved_of_acts acts (earlier stage performs)

/-- The callback is dropped at the end of a deregistration. -/
theorem deregistration_of_dropCallback {current next : Thread}
    (acts : Thread.Acts shared current .dropCallback next) :
    current.deregistration = some .waited := by
  cases acts with
  | arm acts => cases acts
  | registrar acts =>
      cases acts with
      | deregister acts =>
          cases acts
          rfl
  | closer acts =>
      cases acts with
      | deregister acts =>
          cases acts
          rfl

/-- When the `DriverResource` is gone, the wake source is drained. -/
theorem drained_of_gone (reached : program.Reachable world)
    (gone : world.shared.value = .gone) :
    world.shared.lifecycle.Drained := by
  refine Program.shared_invariant
    (fun shared => shared.value = .gone → shared.lifecycle.Drained)
    ?_ ?_ reached gone
  · rintro shared ⟨_, absent, _⟩ gone
    exact nomatch absent.symm.trans gone
  · intro world thread current op next reached running acts earlier gone
    cases op with
    | dropCallback =>
        exact drained_apply (achieved_of_deregistration reached running
          (deregistration_of_dropCallback acts))
    | telekioRegister => cases gone
    | takeValue => cases gone
    | _ => exact drained_apply (earlier gone)

/-! ## The released registration -/

/-- No wake runs the guest's callback. -/
def Quiesced (world : World) : Prop :=
  ∀ thread arm, world.threads thread = some (.arm arm) →
    ¬ arm.inGuest

theorem guards_of_inGuest {arm : Arm} (inGuest : arm.inGuest) :
    arm.guards = 1 := by
  cases arm <;> first | rfl | cases inGuest

theorem quiesced_of_gone (reached : program.Reachable world)
    (gone : world.shared.value = .gone) : Quiesced world := by
  intro thread arm running inGuest
  have none := guards_of_drained reached (drained_of_gone reached gone)
    running
  exact nomatch none.symm.trans (guards_of_inGuest inGuest)

theorem gone_of_steps {later : World}
    (reached : program.Reachable world)
    (steps : program.Steps world later)
    (gone : world.shared.value = .gone) : later.shared.value = .gone :=
  Program.shared_lasts (fun shared => shared.value = .gone) reached steps
    gone fun _ _ _ _ _ _ _ acts => gone_of_acts acts

/-- The thread drops the last reference, or has dropped it. -/
def Registrar.last : Registrar → Prop
  | .dropping => True
  | .deregistering _ => True
  | .returned last => last = true
  | _ => False

theorem last_of_acts {registrar next : Registrar}
    (acts : Registrar.Acts shared registrar op next)
    (last : registrar.last) : next.last := by
  cases acts <;> trivial

theorem last_of_steps {later : World} {thread : Nat}
    {registrar : Registrar} (reached : program.Reachable world)
    (steps : program.Steps world later)
    (running : world.threads thread = some (.registrar registrar))
    (last : registrar.last) :
    ∃ found, later.threads thread = some (.registrar found) ∧
      found.last := by
  obtain ⟨_, held, found, rfl, last⟩ := Program.thread_lasts
    (fun held => ∃ found, held = .registrar found ∧ Registrar.last found)
    reached steps ⟨_, running, registrar, rfl, last⟩ (by
      rintro world current op next _ _ acts ⟨found, rfl, last⟩
      cases acts with
      | registrar acts => exact ⟨_, rfl, last_of_acts acts last⟩)
  exact ⟨found, held, last⟩

/-- The thread that has dropped the last reference has seen the end of the
resource. -/
theorem gone_of_returned (reached : program.Reachable world)
    {thread : Nat}
    (running :
      world.threads thread = some (.registrar (.returned true))) :
    world.shared.value = .gone := by
  refine Program.thread_invariant
    (fun shared held => held = .registrar (.returned true) →
      shared.value = .gone)
    ?_ ?_ ?_ reached running rfl
  · intro world first _ starts same
    subst same
    cases starts
  · intro world thread current op next reached running acts _ same
    subst same
    cases acts with
    | registrar acts =>
        cases acts with
        | empty gone => exact gone
        | finish =>
            exact (achieved_of_deregistration reached running rfl).2
  · intro world thread bystander current op next held _ _ _ _ acts
      earlier same
    exact gone_of_acts acts (earlier same)

theorem accepting_cutoff :
    (Op.cutoff.apply shared).owner.accepting = false := by
  simp [Op.apply, Op.owner, Op.cutoffResult, OwnerState.cutoff]

theorem accepting_apply (refusing : shared.owner.accepting = false) :
    (op.apply shared).owner.accepting = false := by
  cases op with
  | cutoff => exact accepting_cutoff
  | callback =>
      simp [Op.apply, Op.owner, OwnerState.callback,
        OwnerState.isAccepting, refusing]
  | registerResource =>
      simp [Op.apply, Op.owner, OwnerState.registerResource,
        OwnerState.isAccepting, refusing]
  | _ => exact refusing

/-- An owner shutdown holds the resource only after its cutoff. -/
theorem refusing_of_clones (reached : program.Reachable world)
    (held : world.shared.clones ≠ 0) :
    world.shared.owner.accepting = false := by
  refine Program.shared_invariant
    (fun shared => shared.clones ≠ 0 → shared.owner.accepting = false)
    ?_ ?_ reached held
  · rintro shared ⟨_, _, none, _⟩ held
    exact absurd none held
  · intro world thread current op next _ _ _ earlier held
    cases op with
    | cutoff => exact accepting_cutoff
    | dropClone =>
        exact earlier fun none => held (by
          simp [program, Op.apply, Op.clones, none])
    | _ => exact accepting_apply (earlier held)

/-- No wake has a callback admitted that it has not finished. -/
def Uncalled (world : World) : Prop :=
  ∀ thread arm, world.threads thread = some (.arm arm) →
    ¬ arm.inFlight

theorem inFlight_of_inGuest {arm : Arm} (inGuest : arm.inGuest) :
    arm.inFlight := by
  cases arm <;> trivial

/-- After the cutoff no callback is admitted. -/
theorem not_inFlight_of_acts {arm next : Arm}
    (refusing : shared.owner.accepting = false)
    (acts : Arm.Acts shared arm op next) (idle : ¬ arm.inFlight) :
    ¬ next.inFlight := by
  cases acts with
  | callback admitted =>
      exact nomatch refusing.symm.trans
        (OwnerState.callback_eq_some admitted).1
  | upgrade alive => exact fun _ => idle trivial
  | _ => exact fun inFlight => inFlight

theorem uncalled_of_steps {later : World}
    (reached : program.Reachable world)
    (steps : program.Steps world later)
    (refusing : world.shared.owner.accepting = false)
    (uncalled : Uncalled world) : Uncalled later := by
  refine (Program.steps_invariant
    (fun world => world.shared.owner.accepting = false ∧
      Uncalled world)
    reached steps ⟨refusing, uncalled⟩ ?_).2
  rintro before after _ step ⟨refusing, uncalled⟩
  cases step with
  | fork free starts =>
      refine ⟨refusing, fun thread arm running => ?_⟩
      rcases World.threads_put_cases running with ⟨_, rfl⟩ | ⟨_, old⟩
      · cases starts
        exact fun inFlight => inFlight
      · exact uncalled thread arm old
  | move moves =>
      obtain ⟨moving, acts⟩ := moves
      refine ⟨accepting_apply refusing, fun thread arm running => ?_⟩
      rcases World.threads_put_cases running with ⟨_, rfl⟩ | ⟨_, old⟩
      · cases acts with
        | arm acts =>
            exact not_inFlight_of_acts refusing acts
              (uncalled _ _ moving)
      · exact uncalled thread arm old

/-- What `release_driver` promises: once it has returned, the guest's
callback is not running and does not start again. -/
def Quiesces (world : World) (thread : Nat) : Prop :=
  ∀ later, program.Steps world later → ∀ last,
    later.threads thread = some (.registrar (.returned last)) →
    Quiesced later

/-- Either no owner shutdown holds the resource, or one has dropped it, or no
wake is inside an admitted callback. -/
def ReleasedInTime (world : World) : Prop :=
  world.shared.clones = 0 ∨ world.shared.value = .gone ∨ Uncalled world

variable {thread id : Nat} {next : Thread}

/-- The wake that the owner has admitted calls the guest after the release
has returned. -/
theorem not_quiesces_of_inFlight {other : Nat} {arm : Arm}
    (running : world.threads thread =
      some (.registrar (.returned false)))
    (alive : world.shared.value ≠ .gone)
    (waking : world.threads other = some (.arm arm))
    (inFlight : arm.inFlight) : ¬ Quiesces world thread := by
  intro promised
  cases arm with
  | running id => exact promised _ .refl _ running _ _ waking trivial
  | admitted id =>
      have different : thread ≠ other := by
        rintro rfl
        exact nomatch running.symm.trans waking
      refine promised _ (.single (.move
        (.mk waking (.arm (.upgrade alive))))) false ?_ other
        (.running id) (World.put_threads_self _ _ _ _) trivial
      exact (World.put_threads_of_ne _ _ _ different).trans running
  | _ => cases inFlight

/-- Releasing the registration quiesces its callback if and only if an owner
shutdown is not in the middle of closing the resource while a wake is inside
an admitted callback. -/
theorem release_quiesces_iff (reached : program.Reachable world)
    (running : world.threads thread = some (.registrar (.live id)))
    (acts : Thread.Acts world.shared (.registrar (.live id))
      (.unregisterResource id) next) :
    Quiesces (world.put
        (program.apply (.unregisterResource id) world.shared)
        thread next) thread ↔
      ReleasedInTime world := by
  have released := reached.move thread running acts
  have known := World.put_threads_self world
    (program.apply (.unregisterResource id) world.shared) thread next
  by_cases gone : world.shared.value = .gone
  · refine iff_of_true ?_ (Or.inr (Or.inl gone))
    intro later steps _ _
    exact quiesced_of_gone (released.steps steps)
      (gone_of_steps released steps gone)
  cases acts with
  | registrar acts =>
      cases acts with
      | releaseLast last =>
          refine iff_of_true ?_ (Or.inl last)
          intro later steps last returned
          obtain ⟨found, held, drops⟩ :=
            last_of_steps released steps known trivial
          cases held.symm.trans returned
          cases drops
          have reachedLater := released.steps steps
          exact quiesced_of_gone reachedLater
            (gone_of_returned reachedLater returned)
      | releaseShared shares =>
          constructor
          · intro promised
            refine Or.inr (Or.inr fun other arm waking inFlight => ?_)
            have different : other ≠ thread := by
              rintro rfl
              exact nomatch running.symm.trans waking
            exact not_quiesces_of_inFlight known gone
              ((World.put_threads_of_ne _ _ _ different).trans waking)
              inFlight promised
          · rintro (none | dropped | uncalled)
            · exact absurd none shares
            · exact absurd dropped gone
            · have refusing := refusing_of_clones reached shares
              intro later steps _ _ other arm waking inGuest
              refine uncalled_of_steps released steps refusing ?_ other
                arm waking (inFlight_of_inGuest inGuest)
              intro other arm waking
              rcases World.threads_put_cases waking with
                ⟨_, same⟩ | ⟨_, old⟩
              · cases same
              · exact uncalled other arm old

/-- A live registration of an owner with nothing else. -/
theorem exists_live :
    ∃ world, program.Reachable world ∧
      world.threads 0 = some (.registrar (.live 1)) ∧
      world.shared.clones = 0 := by
  have fresh : program.Reachable (World.quiet
      ⟨ownerState, WakeLifecycle.default, .absent, 0⟩) :=
    Program.Reachable.quiet ⟨rfl, rfl, rfl, fun id => nofun⟩
  have built := (fresh.fork 0 rfl .registrar).move 0 rfl
    (.registrar (.build rfl))
  exact ⟨_, built.move 0 rfl (.registrar (.register rfl)), rfl, rfl⟩

/-- A registration whose callback runs while an owner shutdown has taken its
snapshot. -/
theorem exists_running :
    ∃ world, program.Reachable world ∧
      world.threads 0 = some (.registrar (.live 1)) ∧
      world.threads 1 = some (.arm (.running 2)) ∧
      world.shared.clones ≠ 0 ∧ world.shared.value ≠ .gone := by
  have fresh : program.Reachable (World.quiet
      ⟨ownerState, WakeLifecycle.default, .absent, 0⟩) :=
    Program.Reachable.quiet ⟨rfl, rfl, rfl, fun id => nofun⟩
  have built := (fresh.fork 0 rfl .registrar).move 0 rfl
    (.registrar (.build rfl))
  have live := built.move 0 rfl (.registrar (.register rfl))
  have polling := (live.fork 1 rfl .arm).move 1 rfl
    (.arm (.enter nofun rfl))
  have calling := polling.move 1 rfl (.arm .ready)
  have admitted := calling.move 1 rfl (.arm (.callback rfl))
  have running := admitted.move 1 rfl (.arm (.upgrade nofun))
  have holding := (running.fork 2 rfl .closer).move 2 rfl
    (.closer (.cutoff rfl))
  exact ⟨_, holding, rfl, rfl, nofun, nofun⟩

/-- The release returns while the callback runs. -/
theorem exists_running_released :
    ¬ ∀ world thread id next, program.Reachable world →
      world.threads thread = some (.registrar (.live id)) →
      Thread.Acts world.shared (.registrar (.live id))
        (.unregisterResource id) next →
      Quiesces (world.put
        (program.apply (.unregisterResource id) world.shared)
        thread next) thread := by
  intro claim
  obtain ⟨world, reached, live, running, shares, alive⟩ :=
    exists_running
  have promised := claim world 0 1 _ reached live
    (.registrar (.releaseShared shares))
  have waking := (World.put_threads_of_ne world
    (program.apply (.unregisterResource 1) world.shared)
    (.registrar (.returned false)) (show 1 ≠ 0 by decide)).trans running
  refine absurd promised (not_quiesces_of_inFlight
    (World.put_threads_self _ _ _ _) ?_ waking trivial)
  exact alive

/-- Without an owner shutdown the release drops the resource itself. -/
theorem release_quiesces_iff_of_last :
    ∃ world, program.Reachable world ∧
      Quiesces (world.put
        (program.apply (.unregisterResource 1) world.shared) 0
        (.registrar .dropping)) 0 := by
  obtain ⟨world, reached, live, last⟩ := exists_live
  exact ⟨world, reached, (release_quiesces_iff reached live
    (.registrar (.releaseLast last))).mpr (Or.inl last)⟩

end Telekio.Driver
