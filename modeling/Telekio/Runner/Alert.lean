import Telekio.Runner.Release

/-!
# No wake-up of a guest task is lost

Outside task dumps: when the slot of an incomplete task is full, somebody
still has to look at it, or the host has been told.
-/

namespace Telekio.Runner

open Telekio.Interleave

variable {shared : Shared} {current next : Thread} {op : Op}
variable {tracing : Bool} {waker : WakerRef} {effect : Effect}

/-- The host polls no more. -/
def Host.stopped : Host → Bool
  | .binding | .ready => false
  | .polling _ _ .panicked => true
  | .polling _ _ _ => false
  | _ => true

def Host.unwinding : Host → Bool
  | .polling _ _ .panicked | .polling _ _ (.aborting _) => true
  | _ => false

/-- After an unwind there is no `Notified`, and nobody gets one. -/
structure Shared.Unwound (shared : Shared) : Prop where
  unwinding : shared.host.unwinding = true → shared.panicked = true
  stopped : shared.panicked = true → shared.host.stopped = true
  tokens : shared.panicked = true → shared.tokens = 0
  silent : shared.panicked = true → shared.state.notified = true ∨
    shared.state.running = true ∨ shared.state.complete = true

attribute [grind] Host.stopped Host.unwinding

theorem unwound_of_scheduling {call after : Scheduling}
    (acts : Scheduling.Acts shared tracing call effect after)
    (unwound : shared.Unwound) : (effect.apply shared).Unwound := by
  obtain ⟨unwinding, stopped, tokens, silent⟩ := unwound
  cases acts <;> constructor <;> grind -ring -linarith

/-- Only an unwind is noted as one. -/
theorem panicked_apply (other : effect ≠ .unwind) :
    (effect.apply shared).panicked = shared.panicked := by
  cases effect with
  | unwind => exact absurd rfl other
  | _ => grind -ring -linarith

/-- No poll has unwound. -/
theorem unwound_of_calm {after : Shared} (calm : after.panicked = false)
    (outside : after.host.unwinding = false) : after.Unwound := by
  constructor
  · rw [outside]
    exact nofun
  all_goals
    rw [calm]
    exact nofun

/-- The host goes on after its last poll. -/
theorem unwound_of_kept {after : Shared} (unwound : shared.Unwound)
    (panicked : after.panicked = shared.panicked)
    (tokens : after.tokens = shared.tokens)
    (state : after.state = shared.state)
    (outside : after.host.unwinding = false)
    (stopped : after.host.stopped = true) : after.Unwound where
  unwinding := by
    rw [outside]
    exact nofun
  stopped := fun _ => stopped
  tokens := by
    rw [panicked, tokens]
    exact unwound.tokens
  silent := by
    rw [panicked, state]
    exact unwound.silent

/-- A host that still polls has not unwound. -/
theorem calm_of_not_stopped (unwound : shared.Unwound)
    (polls : shared.host.stopped = false) : shared.panicked = false := by
  cases panicked : shared.panicked with
  | false => rfl
  | true =>
      rw [unwound.stopped panicked] at polls
      cases polls

theorem unwound_of_poll {stage after : PollStage}
    (acts : PollStage.Acts shared waker tracing stage effect after)
    (same : shared.host = .polling waker tracing stage)
    (bounded : shared.Bounded) (counted : shared.rests ≤ shared.tokens)
    (unwound : shared.Unwound) :
    (Op.apply ⟨effect, some (.polling waker tracing after)⟩
      shared).Unwound := by
  have calm (polls : (Host.polling waker tracing stage).stopped = false)
      (other : effect ≠ .unwind) :
      (effect.apply shared).panicked = false :=
    (panicked_apply other).trans
      (calm_of_not_stopped unwound (by rw [same]; exact polls))
  cases acts with
  | deferPanics | runPanics | runningPanics =>
      obtain ⟨single, notified, running⟩ := bounded
      constructor <;> grind -ring -linarith
  | abort submits =>
      have panicked := unwound.unwinding (by rw [same]; rfl)
      have silent := unwound.silent panicked
      simp [TaskState.toNotifiedAndCancel_submits.mp submits] at silent
  | aborting acts =>
      have panicked := unwound.unwinding (by rw [same]; rfl)
      have stopped := unwound.stopped panicked
      rw [same] at stopped
      cases stopped
  | yield acts =>
      exact unwound_of_calm (calm rfl (by cases acts <;> exact nofun)) rfl
  | completing acts =>
      refine unwound_of_calm (calm rfl (by cases acts <;> exact nofun)) ?_
      cases acts <;> rfl
  | _ => exact unwound_of_calm (calm rfl nofun) rfl

theorem unwound_of_shutdown {call after : ShuttingDown} {next : Host}
    (acts : ShuttingDown.Acts shared call effect after)
    (goes : next.shutdown = some after) (unwound : shared.Unwound) :
    (Op.apply ⟨effect, some next⟩ shared).Unwound := by
  have later : next.unwinding = false ∧ next.stopped = true := by
    cases next with
    | cancelling | shuttingDown => exact ⟨rfl, rfl⟩
    | _ => cases goes
  obtain ⟨unwinding, stopped, tokens, silent⟩ := unwound
  cases acts with
  | completing acts => cases acts <;> constructor <;> grind -ring -linarith
  | _ => constructor <;> grind -ring -linarith

theorem unwound_of_host {host next : Host}
    (acts : Host.Acts shared host effect next)
    (same : shared.host = host) (bounded : shared.Bounded)
    (counted : shared.rests ≤ shared.tokens) (unwound : shared.Unwound) :
    (Op.apply ⟨effect, some next⟩ shared).Unwound := by
  have calm (polls : host.stopped = false) (other : effect ≠ .unwind) :
      (effect.apply shared).panicked = false :=
    (panicked_apply other).trans
      (calm_of_not_stopped unwound (by rw [same]; exact polls))
  cases acts with
  | polling acts => exact unwound_of_poll acts same bounded counted unwound
  | cancelling acts | shuttingDown acts =>
      exact unwound_of_shutdown acts rfl unwound
  | bind | poll | alreadyComplete | nowComplete | recheckedEmpty
  | recheckWake | aborted | drop =>
      exact unwound_of_calm (calm rfl nofun) rfl
  | abortedAlready =>
      obtain ⟨unwinding, stopped, tokens, silent⟩ := unwound
      constructor <;> grind -ring -linarith
  | _ => exact unwound_of_kept unwound rfl rfl rfl rfl rfl

theorem unwound_of_waking {call after : Waking}
    (acts : Waking.Acts shared tracing call effect after)
    (unwound : shared.Unwound) : (effect.apply shared).Unwound := by
  cases acts with
  | schedule acts => exact unwound_of_scheduling acts unwound
  | _ =>
      obtain ⟨unwinding, stopped, tokens, silent⟩ := unwound
      constructor <;> grind -ring -linarith

theorem unwound_of_reachable {world : World}
    (reached : program.Reachable world) : world.shared.Unwound := by
  refine Program.shared_invariant Shared.Unwound ?_ ?_ reached
  · rintro shared rfl
    exact ⟨nofun, nofun, nofun, nofun⟩
  · intro world thread current op next reached running acts unwound
    cases acts with
    | host acts =>
        exact unwound_of_host acts rfl (bounded_of_reachable reached)
          (Program.rests_le_of_balanced (balancing.balanced reached))
          unwound
    | waking acts => exact unwound_of_waking acts unwound

/-- The slot of a task whose poll has unwound is empty. -/
theorem empty_of_panicked {world : World}
    (reached : program.Reachable world)
    (panicked : world.shared.panicked = true) :
    world.shared.runnable = false := by
  have counted := Program.rests_le_of_balanced (balancing.balanced reached)
  rw [(unwound_of_reachable reached).tokens panicked] at counted
  grind -ring -linarith

/-- The poll has stored its waker and will return. -/
def Host.stored : Host → Option WakerRef
  | .polling waker _ .recheck | .polling waker _ .waking => some waker
  | _ => none

/-- A poll is in progress. -/
def Host.polls : Host → Bool
  | .polling _ _ _ => true
  | _ => false

/-- The stored waker is the one of the latest poll that has stored one. -/
structure Shared.Registered (shared : Shared) : Prop where
  unbound : shared.host = .binding → shared.polled = false
  stored : ∀ waker, shared.host.stored = some waker →
    shared.waker = some waker
  finished : ∀ waker, shared.finished = some waker →
    shared.host.stored ≠ none ∨ shared.state.complete = true ∨
      shared.waker = some waker
  unfinished : shared.finished = none → shared.polled = false ∨
    shared.state.complete = true ∨ shared.panicked = true ∨
      shared.host.polls = true

attribute [grind] Host.stored Host.polls

theorem complete_mono (effect : Effect)
    (complete : shared.state.complete = true) :
    (effect.apply shared).state.complete = true := by
  cases effect <;> grind -ring -linarith

/-- The polls and the stored waker are left alone. -/
theorem registered_apply
    (kept : (effect.apply shared).waker = shared.waker ∧
      (effect.apply shared).finished = shared.finished ∧
      (effect.apply shared).polled = shared.polled ∧
      (effect.apply shared).panicked = shared.panicked)
    (registered : shared.Registered) :
    (effect.apply shared).Registered := by
  obtain ⟨waker, finished, polled, panicked⟩ := kept
  constructor <;> simp only [host_apply, waker, finished, polled, panicked]
  · exact registered.unbound
  · exact registered.stored
  · intro waker finished
    exact (registered.finished waker finished).imp_right
      (Or.imp_left (complete_mono effect))
  · intro unfinished
    exact (registered.unfinished unfinished).imp_right
      (Or.imp_left (complete_mono effect))

theorem kept_of_scheduling {call after : Scheduling}
    (acts : Scheduling.Acts shared tracing call effect after) :
    (effect.apply shared).waker = shared.waker ∧
      (effect.apply shared).finished = shared.finished ∧
      (effect.apply shared).polled = shared.polled ∧
      (effect.apply shared).panicked = shared.panicked := by
  cases acts with
  | store => grind -ring -linarith
  | wake => cases tracing <;> exact ⟨rfl, rfl, rfl, rfl⟩
  | _ => exact ⟨rfl, rfl, rfl, rfl⟩

theorem registered_of_poll {stage after : PollStage}
    (acts : PollStage.Acts shared waker tracing stage effect after)
    (same : shared.host = .polling waker tracing stage)
    (completes : shared.Completes) (registered : shared.Registered) :
    (Op.apply ⟨effect, some (.polling waker tracing after)⟩
      shared).Registered := by
  have kept (stays : (Host.polling waker tracing after).stored =
        (Host.polling waker tracing stage).stored)
      (stores : (effect.apply shared).waker = shared.waker)
      (finishes : (effect.apply shared).finished = shared.finished) :
      (Op.apply ⟨effect, some (.polling waker tracing after)⟩
        shared).Registered := by
    rw [← same] at stays
    refine ⟨nofun, ?_, ?_, fun _ => Or.inr (Or.inr (Or.inr rfl))⟩
    · intro waker here
      exact stores.trans (registered.stored waker (stays.symm.trans here))
    · intro waker finished
      rcases registered.finished waker (finishes.symm.trans finished) with
        stored | complete | stored
      · exact Or.inl (fun here => stored (stays.symm.trans here))
      · exact Or.inr (Or.inl (complete_mono effect complete))
      · exact Or.inr (Or.inr (stores.trans stored))
  cases acts with
  | yield acts | aborting acts =>
      obtain ⟨stores, finishes, -, -⟩ := kept_of_scheduling acts
      exact kept rfl stores finishes
  | completing acts =>
      have completed := completes.completed
      cases acts with
      | waker =>
          have complete := completed (Or.inr (by rw [same]; rfl))
          exact ⟨nofun, nofun, fun _ _ => Or.inr (Or.inl complete),
            fun _ => Or.inr (Or.inr (Or.inr rfl))⟩
      | _ => exact kept rfl rfl rfl
  | store =>
      exact ⟨nofun, fun _ here => here, fun _ _ => Or.inl nofun,
        fun _ => Or.inr (Or.inr (Or.inr rfl))⟩
  | _ => exact kept rfl rfl rfl

theorem outside_of_shutdown {host : Host} {call : ShuttingDown}
    (here : host.shutdown = some call) :
    host ≠ .binding ∧ host.stored = none ∧ host.polls = false := by
  cases host with
  | cancelling | shuttingDown => exact ⟨nofun, rfl, rfl⟩
  | _ => cases here

theorem registered_of_shutdown {call after : ShuttingDown} {next : Host}
    (acts : ShuttingDown.Acts shared call effect after)
    (here : shared.host.shutdown = some call)
    (goes : next.shutdown = some after)
    (completes : shared.Completes) (registered : shared.Registered) :
    (Op.apply ⟨effect, some next⟩ shared).Registered := by
  have completed := completes.completed
  rw [(host_of_shutdown here).2] at completed
  obtain ⟨-, unstored, idle⟩ := outside_of_shutdown here
  obtain ⟨bound, nowUnstored, nowIdle⟩ := outside_of_shutdown goes
  obtain ⟨unbound, stored, finished, unfinished⟩ := registered
  cases acts with
  | completing acts => cases acts <;> constructor <;> grind -ring -linarith
  | _ => constructor <;> grind -ring -linarith

/-- A poll begins, or has ended. -/
theorem registered_of_host {host next : Host}
    (acts : Host.Acts shared host effect next) (same : shared.host = host)
    (completes : shared.Completes) (unwound : shared.Unwound)
    (registered : shared.Registered) :
    (Op.apply ⟨effect, some next⟩ shared).Registered := by
  have unwinding := unwound.unwinding
  cases acts with
  | polling acts => exact registered_of_poll acts same completes registered
  | cancelling acts | shuttingDown acts =>
      exact registered_of_shutdown acts (by rw [same]; rfl) rfl completes
        registered
  | _ =>
      obtain ⟨unbound, stored, finished, unfinished⟩ := registered
      constructor <;> grind -ring -linarith

theorem registered_of_reachable {world : World}
    (reached : program.Reachable world) : world.shared.Registered := by
  refine Program.shared_invariant Shared.Registered ?_ ?_ reached
  · rintro shared rfl
    exact ⟨fun _ => rfl, nofun, nofun, fun _ => Or.inl rfl⟩
  · intro world thread current op next reached running acts registered
    cases acts with
    | host acts =>
        exact registered_of_host acts rfl (completes_of_reachable reached)
          (unwound_of_reachable reached) registered
    | waking acts =>
        refine registered_apply ?_ registered
        cases acts with
        | schedule acts => exact kept_of_scheduling acts
        | _ => exact ⟨rfl, rfl, rfl, rfl⟩

/-! ## Who still has to look -/

def Effect.traced : Effect → Bool
  | .wake tracing | .wakeAndFinish tracing _ => tracing
  | _ => false

def Host.traced : Host → Bool
  | .polling _ tracing _ => tracing
  | _ => false

/-- No thread is tracing. -/
def NoDump (_ : Shared) (op : Op) : Prop :=
  op.effect.traced = false ∧ op.host.elim false Host.traced = false

/-- The stages of a poll that still takes or re-checks the slot; the wake to
which the re-check leads is part of it. -/
def PollStage.willCheck : PollStage → Bool
  | .completing stage => stage.incomplete
  | .panicked | .aborting _ => false
  | _ => true

def Host.willCheck : Host → Bool
  | .polling _ _ stage => stage.willCheck
  | _ => false

/-- The call has stored the `Notified` and not yet woken the host. -/
def Thread.stored : Thread → Bool
  | .waking _ (.scheduling (.stored _)) => true
  | _ => false

/-- Why an incomplete task with a full slot is polled again: it has never
been polled, a poll will check the slot, a call of `schedule` will wake the
host, or the waker of the latest poll has been woken since the slot was
taken. -/
def Alerted (world : World) : Prop :=
  world.shared.polled = false ∨ world.shared.host.willCheck = true ∨
    (∃ thread found, world.threads thread = some found ∧
      found.stored = true) ∨
    ∃ waker, world.shared.finished = some waker ∧
      waker ∈ world.shared.woken

attribute [grind] PollStage.willCheck Host.willCheck Thread.stored

/-- A poll of an incomplete task with a full slot will check it. -/
theorem willCheck_of_polls {world : World}
    (reached : program.Reachable world)
    (incomplete : world.shared.state.complete = false)
    (full : world.shared.runnable = true)
    (polls : world.shared.host.polls = true) :
    world.shared.host.willCheck = true := by
  have completed := (completes_of_reachable reached).completed
  have unwinding := (unwound_of_reachable reached).unwinding
  have empty := empty_of_panicked reached
  generalize world.shared.host = host at *
  cases host with
  | polling waker tracing stage =>
      cases stage with
      | completing stage => cases stage <;> grind -ring -linarith
      | _ => grind -ring -linarith
  | _ => cases polls

/-- The wake of a call of `schedule` reaches the latest poll. -/
theorem alerted_of_wake {world : World}
    (reached : program.Reachable world)
    (incomplete : world.shared.state.complete = false)
    (full : world.shared.runnable = true) :
    world.shared.polled = false ∨ world.shared.host.willCheck = true ∨
      ∃ waker, world.shared.finished = some waker ∧
        waker ∈ ((Effect.wake false).apply world.shared).woken := by
  have registered := registered_of_reachable reached
  have check := willCheck_of_polls reached incomplete full
  cases finished : world.shared.finished with
  | none =>
      rcases registered.unfinished finished with
        unpolled | complete | panicked | polls
      · exact Or.inl unpolled
      · rw [incomplete] at complete
        cases complete
      · rw [empty_of_panicked reached panicked] at full
        cases full
      · exact Or.inr (Or.inl (check polls))
  | some waker =>
      rcases registered.finished waker finished with
        stored | complete | stored
      · refine Or.inr (Or.inl (check ?_))
        cases same : world.shared.host with
        | polling => rfl
        | _ => exact absurd (by rw [same]; rfl) stored
      · rw [incomplete] at complete
        cases complete
      · refine Or.inr (Or.inr ⟨waker, rfl, ?_⟩)
        simp [Effect.apply, Shared.wake, stored]

/-- A move of a call that has nothing to wake. -/
theorem alerted_of_kept {world : World} {thread : Nat}
    (running : world.threads thread = some current)
    (unstored : current.stored = false)
    (polled : (op.apply world.shared).polled = world.shared.polled)
    (host : world.shared.host.willCheck = true →
      (op.apply world.shared).host.willCheck = true)
    (finished : (op.apply world.shared).finished = world.shared.finished)
    (woken : ∀ waker, waker ∈ world.shared.woken →
      waker ∈ (op.apply world.shared).woken)
    (alerted : Alerted world) :
    Alerted (world.put (op.apply world.shared) thread next) := by
  rcases alerted with unpolled | check | ⟨other, found, otherRunning, stored⟩ |
    ⟨waker, isFinished, isWoken⟩
  · exact Or.inl (polled.trans unpolled)
  · exact Or.inr (Or.inl (host check))
  · refine Or.inr (Or.inr (Or.inl ⟨other, found, ?_, stored⟩))
    rw [World.put_threads_of_ne]
    · exact otherRunning
    · rintro rfl
      rw [running] at otherRunning
      cases otherRunning
      rw [unstored] at stored
      cases stored
  · exact Or.inr (Or.inr (Or.inr
      ⟨waker, finished.trans isFinished, woken waker isWoken⟩))

theorem alerted_of_scheduling {world : World} {thread : Nat}
    {call after : Scheduling}
    (reached : program.Reachable world)
    (running : world.threads thread =
      some (.waking tracing (.scheduling call)))
    (acts : Scheduling.Acts world.shared tracing call effect after)
    (untraced : effect.traced = false)
    (held : world.shared.state.complete = false →
      world.shared.runnable = true → Alerted world)
    (incomplete : (effect.apply world.shared).state.complete = false)
    (full : (effect.apply world.shared).runnable = true) :
    Alerted (world.put (effect.apply world.shared) thread
      (.waking tracing (.scheduling after))) := by
  have kept (unstored : Thread.stored (.waking tracing (.scheduling call)) =
        false)
      (polled) (host) (finished) (woken) (alerted : Alerted world) :=
    @alerted_of_kept _ (.waking tracing (.scheduling after)) ⟨effect, none⟩
      world thread running unstored polled host finished woken alerted
  cases acts with
  | store =>
      exact Or.inr (Or.inr (Or.inl
        ⟨thread, _, World.put_threads_self _ _ _ _, rfl⟩))
  | wake =>
      cases tracing with
      | true => cases untraced
      | false =>
          rcases alerted_of_wake reached incomplete full with
            unpolled | check | woken
          · exact Or.inl unpolled
          · exact Or.inr (Or.inl check)
          · exact Or.inr (Or.inr (Or.inr woken))
  | _ =>
      exact kept rfl rfl id rfl (fun _ => id) (held incomplete full)

theorem alerted_of_host {world : World} {thread : Nat} {host next : Host}
    (reached : program.Reachable world)
    (running : world.threads thread = some .host)
    (same : world.shared.host = host)
    (acts : Host.Acts world.shared host effect next)
    (allowed : NoDump world.shared ⟨effect, some next⟩)
    (stops : next.polls = false)
    (held : world.shared.state.complete = false →
      world.shared.runnable = true → Alerted world)
    (incomplete : (effect.apply world.shared).state.complete = false)
    (full : (effect.apply world.shared).runnable = true) :
    Alerted (world.put (Op.apply ⟨effect, some next⟩ world.shared) thread
      .host) := by
  have kept (polled) (check) (finished) (woken) (alerted : Alerted world) :=
    @alerted_of_kept _ .host ⟨effect, some next⟩ world thread running rfl
      polled check finished woken alerted
  have registered := registered_of_reachable reached
  have unwinding := (unwound_of_reachable reached).unwinding
  have completed := (completes_of_reachable reached).completed
  cases acts with
  | bind => exact Or.inl (registered.unbound same)
  | poll => cases stops
  | polling => cases stops
  | recheckedEmpty free empty =>
      rw [show world.shared.runnable = true from full] at empty
      cases empty
  | @recheckWake waker tracing =>
      have stored := registered.stored waker (by rw [same]; rfl)
      cases tracing with
      | true => cases allowed.1
      | false =>
          refine Or.inr (Or.inr (Or.inr ⟨waker, rfl, ?_⟩))
          simp [World.put, Op.apply, Effect.apply, Shared.wake, stored]
  | alreadyComplete complete | nowComplete complete =>
      rw [show world.shared.state.complete = false from incomplete] at complete
      cases complete
  | abortedAlready | aborted =>
      have empty := empty_of_panicked reached (unwinding (by rw [same]; rfl))
      rw [show world.shared.runnable = true from full] at empty
      cases empty
  | cancelling acts | shuttingDown acts =>
      rw [same] at completed
      cases acts with
      | completing acts => cases acts <;> grind -ring -linarith
      | _ =>
          have before :=
            (kept_of_not_completes rfl).1.symm.trans incomplete
          refine kept rfl ?_ rfl (fun _ => id) (held before full)
          rw [same]
          exact id
  | _ =>
      refine kept rfl ?_ rfl (fun _ => id) (held incomplete full)
      rw [same]
      exact id

/-- Outside task dumps, an incomplete task with a full slot is polled
again. -/
theorem wakeUp_isNotLost {world : World}
    (reached : (program.restrict NoDump).Reachable world)
    (incomplete : world.shared.state.complete = false)
    (full : world.shared.runnable = true) : Alerted world := by
  refine @Program.invariant _ _ _ (program.restrict NoDump)
    (fun world => world.shared.state.complete = false →
      world.shared.runnable = true → Alerted world)
    ?_ ?_ _ reached incomplete full
  · rintro shared rfl - full
    cases full
  · intro before after reachedBefore step held incomplete full
    have below := Program.reachable_of_restrict reachedBefore
    cases step with
    | @fork thread first free starts =>
        rcases held incomplete full with
          unpolled | check | ⟨other, found, running, stored⟩ | woken
        · exact Or.inl unpolled
        · exact Or.inr (Or.inl check)
        · refine Or.inr (Or.inr (Or.inl ⟨other, found, ?_, stored⟩))
          rw [World.put_threads_of_ne]
          · exact running
          · rintro rfl
            rw [free] at running
            cases running
        · exact Or.inr (Or.inr (Or.inr woken))
    | move moves =>
        obtain ⟨running, acts, allowed⟩ := moves
        cases acts with
        | @host effect next acts =>
            cases polls : next.polls with
            | true =>
                exact Or.inr (Or.inl (willCheck_of_polls
                  (below.move _ running (.host acts)) incomplete full polls))
            | false =>
                exact alerted_of_host below running rfl acts allowed polls
                  held incomplete full
        | waking acts =>
            cases acts with
            | schedule acts =>
                exact alerted_of_scheduling below running acts allowed.1 held
                  incomplete full
            | submit | already =>
                have before :=
                  (kept_of_not_completes rfl).1.symm.trans incomplete
                exact alerted_of_kept running rfl rfl id rfl (fun _ => id)
                  (held before full)
            | submitAbort | alreadyAbort =>
                have before :=
                  (kept_of_not_completes rfl).1.symm.trans incomplete
                exact alerted_of_kept running rfl rfl id rfl (fun _ => id)
                  (held before full)

/-- A task is woken after its first poll. -/
theorem wakeUp_isNotLost_of_woken :
    ∃ world : World, world.shared.state.complete = false ∧
      world.shared.runnable = true ∧ Alerted world := by
  have new : (program.restrict NoDump).Reachable
      (World.quiet Shared.new) := Program.Reachable.quiet rfl
  have host := new.fork 0 rfl .host
  have bound := host.move 0 rfl ⟨.host .bind, rfl, rfl⟩
  have polled := bound.move 0 rfl
    ⟨.host (.poll 3 false), rfl, rfl⟩
  have checked := polled.move 0 rfl
    ⟨.host (.polling (.incomplete rfl)), rfl, rfl⟩
  have taken := checked.move 0 rfl
    ⟨.host (.polling (.take rfl rfl rfl)), rfl, rfl⟩
  have running := taken.move 0 rfl
    ⟨.host (.polling (.run rfl)), rfl, rfl⟩
  have pending := running.move 0 rfl
    ⟨.host (.polling (.pending rfl)), rfl, rfl⟩
  have incomplete := pending.move 0 rfl
    ⟨.host (.polling (.stillIncomplete rfl)), rfl, rfl⟩
  have stored := incomplete.move 0 rfl
    ⟨.host (.polling .store), rfl, rfl⟩
  have finished := stored.move 0 rfl
    ⟨.host (.recheckedEmpty rfl rfl), rfl, rfl⟩
  have called := finished.fork 1 rfl (.waking false false)
  have submitted := called.move 1 rfl
    ⟨.waking (.submit rfl), rfl, rfl⟩
  have read := submitted.move 1 rfl
    ⟨.waking (.schedule .readCancelled), rfl, rfl⟩
  have locked := read.move 1 rfl
    ⟨.waking (.schedule (.check rfl rfl)), rfl, rfl⟩
  have full := locked.move 1 rfl
    ⟨.waking (.schedule .store), rfl, rfl⟩
  have woken := full.move 1 rfl
    ⟨.waking (.schedule .wake), rfl, rfl⟩
  exact ⟨_, rfl, rfl, wakeUp_isNotLost woken rfl rfl⟩

end Telekio.Runner
