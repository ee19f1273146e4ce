import Telekio.Readiness.System

/-!
# How the entry points fail

Every operation of a guest registration turns a refusal of the host into an
`io::Error`, but for the creation of a readiness operation, which unwinds.
The errors of Tokio keep kind and code where the guest decodes the `IoError`,
and lose them where it decodes the call alone.
-/

namespace Telekio.Readiness

open Telekio.Interleave
open Telekio.Owner

variable {platform : Platform}

attribute [local simp] Op.apply

/-- The call answers its refusal by an `io::Error`, or by doing nothing, and
delivers the error of the host. -/
structure Agrees (platform : Platform) (call : Call) (met : Met)
    (outcome : Outcome) : Prop where
  refused : met.trouble = .refused →
    if call = .clearReadiness then
      outcome = .cleared
    else
      ∃ error, outcome = .error error
  failed : ∀ error, met.trouble = .failed error →
    call ≠ .clearReadiness →
      ∃ delivered, outcome = .error delivered ∧
        error.SameAs platform delivered

/-- The operation of a `readiness` was made, and the error of the host is one
that the guest's decoder keeps. -/
def Kept (platform : Platform) (met : Met) : Prop :=
  match met.place, met.trouble with
  | .create, .refused => False
  | .clear, _ => True
  | .poll, .failed error => error.Plain platform
  | .attempt, .failed error => error.Plain platform
  | _, .failed error => error.Listed
  | _, _ => True

/-- A call unwinds for a panic, or because its operation was refused. -/
def Blamed (met : Option Met) (outcome : Outcome) : Prop :=
  ∀ payload, outcome = .unwound payload → ∃ found, met = some found ∧
    (found.trouble = .panicked ∨ found = ⟨.create, .refused⟩)

/-- Whatever the call met, it agrees with the others exactly when that was
kept. -/
structure Settled (platform : Platform) (call : Call) (met : Option Met)
    (outcome : Outcome) : Prop where
  agrees : ∀ found, met = some found →
    (Agrees platform call found outcome ↔ Kept platform found)
  blamed : Blamed met outcome

theorem settled_of_panicked {call : Call} {place : Place}
    {outcome : Outcome} :
    Settled platform call (some ⟨place, .panicked⟩) outcome := by
  refine ⟨?_, fun _ _ => ⟨_, rfl, Or.inl rfl⟩⟩
  rintro _ ⟨⟩
  refine iff_of_true ⟨nofun, nofun⟩ ?_
  cases place <;> trivial

/-- A call that met nothing has not unwound. -/
theorem settled_of_returned {call : Call}
    {value : TaskPoll (Except Error Value)} :
    Settled platform call none (.returned value) :=
  ⟨nofun, nofun⟩

theorem agrees_refused {call : Call} {place : Place} {error : Error}
    (asks : call ≠ .clearReadiness) :
    Agrees platform call ⟨place, .refused⟩ (.error error) where
  refused := fun _ => by
    rw [if_neg asks]
    exact ⟨error, rfl⟩
  failed := nofun

theorem agrees_failed_iff {call : Call} {place : Place}
    {error delivered : Error} (asks : call ≠ .clearReadiness) :
    Agrees platform call ⟨place, .failed error⟩ (.error delivered) ↔
      error.SameAs platform delivered := by
  constructor
  · intro agrees
    obtain ⟨found, same, kept⟩ := agrees.failed error rfl asks
    cases same
    exact kept
  · intro kept
    exact ⟨nofun, fun found same _ => by
      cases same
      exact ⟨delivered, rfl, kept⟩⟩

theorem not_agrees_unwound {call : Call} {place : Place}
    {payload : String} (asks : call ≠ .clearReadiness) :
    ¬ Agrees platform call ⟨place, .refused⟩ (.unwound payload) := by
  intro agrees
  have refused := agrees.refused rfl
  rw [if_neg asks] at refused
  obtain ⟨_, same⟩ := refused
  cases same

/-- Where a refusal gives an error, a call is settled by the errors that it
delivers; an answer without an error must not unwind. -/
theorem settled_meets {T : Type} {resource : Resource T} {place : Place}
    {error : T → Ended (Option Error)} {call : Call} {outcome : Outcome}
    (asks : call ≠ .clearReadiness)
    (allowed : Kept platform ⟨place, .refused⟩)
    (closed : resource.poisoned = false → resource.inner.value = none →
      ∃ error, outcome = .error error)
    (fails : ∀ value failure, resource.poisoned = false →
      resource.inner.value = some value →
      error value = .returned (some failure) →
      ∃ delivered, outcome = .error delivered ∧
        (failure.SameAs platform delivered ↔
          Kept platform ⟨place, .failed failure⟩))
    (answers : ∀ value, resource.poisoned = false →
      resource.inner.value = some value →
      error value = .returned none → ∃ value, outcome = .returned value) :
    Settled platform call (resource.meets place error) outcome := by
  unfold Resource.meets
  split
  · exact settled_of_panicked
  · next usable =>
      have usable : resource.poisoned = false := by simpa using usable
      split
      · next absent =>
          obtain ⟨error, rfl⟩ := closed usable absent
          refine ⟨?_, nofun⟩
          rintro _ ⟨⟩
          exact iff_of_true (agrees_refused asks) allowed
      · next value found =>
          split
          · next answer gives =>
              cases answer with
              | none =>
                  obtain ⟨value, rfl⟩ := answers value usable found gives
                  exact settled_of_returned
              | some failure =>
                  obtain ⟨delivered, rfl, kept⟩ :=
                    fails value failure usable found gives
                  refine ⟨?_, nofun⟩
                  rintro _ ⟨⟩
                  exact (agrees_failed_iff asks).trans kept
          · exact settled_of_panicked

/-- Neither the poll nor its call has panicked. -/
structure IoPoll.Calm (result : IoPoll) : Prop where
  state : result.state ≠ .panicked
  call : result.call.status = .ok ∨ result.call.status = .error

theorem calm_readyNow {ready : HostReady} : (readyNow ready).Calm := by
  unfold readyNow
  split <;> exact ⟨nofun, Or.inl rfl⟩

theorem calm_ioPollError {error : Error} {flags : IoReady} :
    (ioPollError platform .ready error flags).Calm :=
  ⟨nofun, Or.inr rfl⟩

theorem calm_readyPoll {answer : TaskPoll (Except Error HostEvent)} :
    (readyPoll platform answer).Calm := by
  rcases answer with _ | (_ | _)
  · exact ⟨nofun, Or.inl rfl⟩
  · exact calm_ioPollError
  · exact calm_readyNow

theorem calm_completionPoll {answer : TaskPoll (Except Error HostReady)} :
    (completionPoll platform answer).Calm := by
  rcases answer with _ | (_ | _)
  · exact ⟨nofun, Or.inl rfl⟩
  · exact calm_ioPollError
  · exact ⟨nofun, Or.inl rfl⟩

theorem exists_intoIoResult {call : CallResult}
    (calm : call.status = .ok ∨ call.status = .error) :
    ∃ result, call.intoIoResult = .returned result := by
  unfold CallResult.intoIoResult
  rcases calm with status | status <;> rw [status] <;> exact ⟨_, rfl⟩

theorem exists_decodePoll {result : IoPoll} (calm : result.Calm) :
    ∃ polled, decodePoll result = .returned polled := by
  obtain ⟨decoded, returned⟩ := exists_intoIoResult calm.call
  unfold decodePoll
  cases state : result.state with
  | pending => exact ⟨_, rfl⟩
  | ready =>
      rw [returned]
      cases decoded <;> exact ⟨_, rfl⟩
  | panicked => exact absurd state calm.state

theorem exists_decodeTry {result : IoPoll} (calm : result.Calm) :
    ∃ tried, decodeTry result = .returned tried := by
  obtain ⟨decoded, returned⟩ := exists_intoIoResult calm.call
  unfold decodeTry
  cases state : result.state with
  | pending => exact ⟨_, rfl⟩
  | ready => exact ⟨decoded, returned⟩
  | panicked => exact absurd state calm.state

theorem exists_map {A B : Type} {ended : Ended A} {change : A → B}
    (returns : ∃ value, ended = .returned value) :
    ∃ value, ended.map change = .returned value := by
  obtain ⟨value, rfl⟩ := returns
  exact ⟨change value, rfl⟩

theorem exists_decodeReadiness {result : IoPoll} (calm : result.Calm) :
    ∃ polled, decodeReadiness platform result = .returned polled := by
  refine exists_map ?_
  unfold IoOperation.poll
  cases state : result.state with
  | pending => exact ⟨_, rfl⟩
  | ready =>
      refine exists_map ?_
      unfold IoError.intoIoResult
      split
      · exact exists_intoIoResult calm.call
      · split <;> exact ⟨_, rfl⟩
  | panicked => exact absurd state calm.state

theorem exists_ofPoll
    {ended : Ended (TaskPoll (Except Error ReadyEvent))}
    (returns : ∃ polled, ended = .returned polled) :
    ∃ value, Outcome.ofPoll ended = .returned value := by
  obtain ⟨polled, rfl⟩ := returns
  rcases polled with _ | (_ | _) <;> exact ⟨_, rfl⟩

/-- An answer without an error is an answer. -/
theorem exists_of_map {A B : Type} {ended : Ended A} {change : A → B}
    {value : B} (maps : ended.map change = .returned value) :
    ∃ answer, ended = .returned answer := by
  cases ended with
  | returned answer => exact ⟨answer, rfl⟩
  | unwound payload => cases maps

theorem map_error?_eq_iff {A : Type}
    {ended : Ended (TaskPoll (Except Error A))} {error : Error} :
    ended.map TaskPoll.error? = .returned (some error) ↔
      ended = .returned (.ready (.error error)) := by
  rcases ended with (_ | (_ | _)) | _ <;>
    simp [Ended.map, TaskPoll.error?]

theorem decodePoll_of_closed {resource : Resource Registration}
    {interest : IoInterest} {tokio : Tokio}
    (usable : resource.poisoned = false)
    (closed : resource.inner.value = none) :
    decodePoll (pollRegistration platform resource interest tokio).2 =
      .returned (.ready (.error (.other HostResource.ownerHasShutDown))) := by
  simp only [pollRegistration, Resource.withValue, usable, closed,
    Bool.false_eq_true, if_false]
  rfl

theorem pollRegistration_of_answer {resource : Resource Registration}
    {registration : Registration} {interest : IoInterest} {tokio : Tokio}
    {answer : TaskPoll (Except Error HostEvent)}
    (usable : resource.poisoned = false)
    (found : resource.inner.value = some registration)
    (answers : registration.pollReady interest tokio = .returned answer) :
    (pollRegistration platform resource interest tokio).2 =
      readyPoll platform answer := by
  simp only [pollRegistration, Resource.withValue, usable, found, answers,
    Bool.false_eq_true, if_false]
  rfl

/-- The guest makes a new error of the call's message. -/
theorem decodePoll_of_error {resource : Resource Registration}
    {registration : Registration} {interest : IoInterest} {tokio : Tokio}
    {error : Error}
    (usable : resource.poisoned = false)
    (found : resource.inner.value = some registration)
    (fails : registration.pollReady interest tokio =
      .returned (.ready (.error error))) :
    decodePoll (pollRegistration platform resource interest tokio).2 =
      .returned (.ready (.error (.other (error.toString platform)))) := by
  rw [pollRegistration_of_answer usable found fails]
  rfl

theorem settled_polled {shared : Shared} {direction : Direction}
    (tokio : Tokio) :
    Settled platform (.pollReady direction)
      (shared.registration.meets .poll fun registration =>
        (registration.pollReady direction.interest tokio).map
          TaskPoll.error?)
      (.ofPoll (decodePoll (pollRegistration platform shared.registration
        direction.interest tokio).2)) := by
  refine settled_meets nofun trivial ?_ ?_ ?_
  · intro usable closed
    rw [decodePoll_of_closed usable closed]
    exact ⟨_, rfl⟩
  · intro registration failure usable found fails
    rw [decodePoll_of_error usable found (map_error?_eq_iff.mp fails)]
    exact ⟨_, rfl, sameAs_other_iff platform failure _⟩
  · intro registration usable found answers
    obtain ⟨answer, answers⟩ := exists_of_map answers
    rw [pollRegistration_of_answer usable found answers]
    exact exists_ofPoll (exists_decodePoll calm_readyPoll)

theorem decodeReadiness_of_closed {resource : Resource Operation}
    {tokio : Tokio}
    (usable : resource.poisoned = false)
    (closed : resource.inner.value = none) :
    decodeReadiness platform (pollOperation platform resource tokio).2 =
      .returned (.ready (.error (.other HostResource.ownerHasShutDown))) := by
  simp only [pollOperation, Resource.withValue, usable, closed,
    Bool.false_eq_true, if_false]
  rfl

theorem pollOperation_of_answer {resource : Resource Operation}
    {operation : Operation} {tokio : Tokio}
    {answer : TaskPoll (Except Error HostEvent)}
    (usable : resource.poisoned = false)
    (found : resource.inner.value = some operation)
    (answers : operation.registration.pollReady operation.interest tokio =
      .returned answer) :
    ∃ completion, (pollOperation platform resource tokio).2 =
      completionPoll platform completion ∧
      ∀ error, answer = .ready (.error error) →
        completion = .ready (.error error) := by
  simp only [pollOperation, Resource.withValue, usable, found,
    Registration.ready, answers, Bool.false_eq_true, if_false]
  rcases answer with _ | (_ | _)
  · exact ⟨.pending, rfl, nofun⟩
  · exact ⟨_, rfl, fun _ same => by cases same; rfl⟩
  · exact ⟨.ready (.ok _), rfl, nofun⟩

/-- The guest decodes the `IoError`. -/
theorem decodeReadiness_of_error {resource : Resource Operation}
    {operation : Operation} {tokio : Tokio} {error : Error}
    (usable : resource.poisoned = false)
    (found : resource.inner.value = some operation)
    (fails : operation.registration.pollReady operation.interest tokio =
      .returned (.ready (.error error))) :
    decodeReadiness platform (pollOperation platform resource tokio).2 =
      .returned (.ready (.error error.decoded)) := by
  obtain ⟨completion, polled, same⟩ :=
    @pollOperation_of_answer platform _ _ _ _ usable found fails
  rw [polled, same error rfl, decodeReadiness, IoOperation.poll]
  simp only [completionPoll, ioPollError, intoIoResult_fromError]
  rfl

theorem settled_completed {resource : Resource Operation}
    {interest : Interest} (tokio : Tokio) :
    Settled platform (.readiness interest)
      (resource.meets .operation fun operation =>
        (operation.registration.pollReady operation.interest tokio).map
          TaskPoll.error?)
      (.ofPoll (decodeReadiness platform
        (pollOperation platform resource tokio).2)) := by
  refine settled_meets nofun trivial ?_ ?_ ?_
  · intro usable closed
    rw [decodeReadiness_of_closed usable closed]
    exact ⟨_, rfl⟩
  · intro operation failure usable found fails
    rw [decodeReadiness_of_error usable found (map_error?_eq_iff.mp fails)]
    exact ⟨_, rfl, sameAs_decoded_iff platform failure⟩
  · intro operation usable found answers
    obtain ⟨answer, answers⟩ := exists_of_map answers
    obtain ⟨completion, polled, -⟩ :=
      @pollOperation_of_answer platform _ _ _ _ usable found answers
    rw [polled]
    exact exists_ofPoll (exists_decodeReadiness calm_completionPoll)

/-- Where the creation is refused it unwinds. -/
theorem settled_created {interest : Interest} {payload : String} :
    Settled platform (.readiness interest) (some ⟨.create, .refused⟩)
      (.unwound payload) := by
  refine ⟨?_, fun _ _ => ⟨_, rfl, Or.inr rfl⟩⟩
  rintro _ ⟨⟩
  exact iff_of_false (not_agrees_unwound nofun) id

theorem settled_noFuture {resource : Resource Registration}
    {interest : Interest} {payload : String} {io : IoInterest}
    (unwinds : decodeOperation platform (ready ((readyFuture resource io).map
      (Except.map fun _ => ()))) = .unwound payload) :
    Settled platform (.readiness interest)
      (resource.meets .create fun _ => .returned none)
      (.unwound payload) := by
  unfold readyFuture Resource.withValue at unwinds
  unfold Resource.meets
  split
  · exact settled_of_panicked
  · next usable =>
      rw [if_neg usable] at unwinds
      cases held : resource.inner.value with
      | none => exact settled_created
      | some registration =>
          rw [held] at unwinds
          cases unwinds

/-! ## Attempts -/

theorem decodeTry_of_closed {resource : Resource Registration}
    {interest : IoInterest} {tokio : Tokio}
    (usable : resource.poisoned = false)
    (closed : resource.inner.value = none) :
    decodeTry (tryReady platform resource interest tokio).2 =
      .returned (.error (.other HostResource.ownerHasShutDown)) := by
  simp only [tryReady, Resource.withValue, usable, closed,
    Bool.false_eq_true, if_false]
  rfl

/-- An `imp::Registration` that fails gives an error to the guest. -/
theorem tryReady_of_tryError {registration : Registration}
    {interest : IoInterest} {tokio : Tokio} {error : Error}
    (fails : registration.tryError interest tokio =
      .returned (some error)) :
    ∃ flags, registration.tryReady platform interest tokio =
      .returned (ioPollError platform .ready error flags) := by
  unfold Registration.tryError at fails
  unfold Registration.tryReady
  cases registration with
  | aio =>
      rw [map_error?_eq_iff.mp fails]
      exact ⟨_, rfl⟩
  | _ =>
      cases checked : hostInterest interest with
      | ok flags =>
          rw [checked] at fails
          cases event : tokio.readyEvent <;> simp [Ended.map, event] at fails
      | error refusal =>
          rw [checked] at fails
          cases fails
          exact ⟨_, rfl⟩

theorem calm_tryReady {registration : Registration}
    {interest : IoInterest} {tokio : Tokio} {result : IoPoll}
    (tries : registration.tryReady platform interest tokio =
      .returned result) : result.Calm := by
  unfold Registration.tryReady at tries
  split at tries
  · cases event : tokio.readyEvent <;> rw [event] at tries <;> cases tries
    exact calm_readyPoll
  · cases tries
    exact calm_readyPoll
  · cases answer : tokio.pollReady <;> rw [answer] at tries <;> cases tries
    exact calm_readyPoll
  · cases event : tokio.readyEvent <;> rw [event] at tries <;> cases tries
    exact calm_readyNow
  · cases tries
    exact calm_ioPollError

theorem tryReady_of_returned {resource : Resource Registration}
    {registration : Registration} {interest : IoInterest} {tokio : Tokio}
    {result : IoPoll}
    (usable : resource.poisoned = false)
    (found : resource.inner.value = some registration)
    (tries : registration.tryReady platform interest tokio =
      .returned result) :
    (tryReady platform resource interest tokio).2 = result := by
  simp only [tryReady, Resource.withValue, usable, found, tries,
    Bool.false_eq_true, if_false]
  rfl

/-- Without a panic of Tokio `try_ready` returns. -/
theorem exists_tryReady {registration : Registration}
    {interest : IoInterest} {tokio : Tokio} {failure : Option Error}
    (answers : registration.tryError interest tokio =
      .returned failure) :
    ∃ result, registration.tryReady platform interest tokio =
      .returned result := by
  unfold Registration.tryError at answers
  unfold Registration.tryReady
  cases registration with
  | aio => exact exists_map (exists_of_map answers)
  | _ =>
      cases checked : hostInterest interest with
      | ok flags =>
          rw [checked] at answers
          exact exists_map (exists_of_map answers)
      | error refusal => exact ⟨_, rfl⟩

theorem decodeTry_of_error {resource : Resource Registration}
    {registration : Registration} {interest : IoInterest} {tokio : Tokio}
    {error : Error}
    (usable : resource.poisoned = false)
    (found : resource.inner.value = some registration)
    (fails : registration.tryError interest tokio =
      .returned (some error)) :
    decodeTry (tryReady platform resource interest tokio).2 =
      .returned (.error (.other (error.toString platform))) := by
  obtain ⟨flags, tries⟩ := @tryReady_of_tryError platform _ _ _ _ fails
  rw [tryReady_of_returned usable found tries]
  rfl

theorem settled_tried {shared : Shared} {interest : Interest}
    (tokio : Tokio) :
    Settled platform (.tryIo interest)
      (shared.registration.meets .attempt fun registration =>
        registration.tryError (telekioInterest interest) tokio)
      (.ofTry (decodeTry (tryReady platform shared.registration
        (telekioInterest interest) tokio).2)) := by
  refine settled_meets nofun trivial ?_ ?_ ?_
  · intro usable closed
    rw [decodeTry_of_closed usable closed]
    exact ⟨_, rfl⟩
  · intro registration failure usable found fails
    rw [decodeTry_of_error usable found fails]
    exact ⟨_, rfl, sameAs_other_iff platform failure _⟩
  · intro registration usable found answers
    obtain ⟨result, tries⟩ := @exists_tryReady platform _ _ _ _ answers
    rw [tryReady_of_returned usable found tries]
    exact exists_map (exists_decodeTry (calm_tryReady tries))

theorem map_clear_eq_iff {ended : Ended (Except Error Unit)}
    {error : Error} :
    ended.map (TaskPoll.error? ∘ .ready) = .returned (some error) ↔
      ended = .returned (.error error) := by
  rcases ended with (_ | _) | _ <;> simp [Ended.map, TaskPoll.error?]

theorem clear_of_closed {resource : Resource Registration} {tokio : Tokio}
    (usable : resource.poisoned = false)
    (closed : resource.inner.value = none) :
    clear platform resource tokio = (resource, ⟨.ok, .none⟩) := by
  simp [clear, Resource.withValue, usable, closed, Ended.map, ioCall]

theorem intoIoResult_of_error {resource : Resource Registration}
    {registration : Registration} {tokio : Tokio} {error : Error}
    (usable : resource.poisoned = false)
    (found : resource.inner.value = some registration)
    (fails : registration.clear tokio = .returned (.error error)) :
    (clear platform resource tokio).2.intoIoResult =
      .returned (.error error.decoded) := by
  simp only [clear, Resource.withValue, usable, found, fails, Ended.map,
    ioCall, Bool.false_eq_true, if_false]
  exact intoIoResult_fromError platform error

theorem settled_attemptCleared {shared : Shared} {interest : Interest}
    {blocking : Error} (tokio : Tokio) :
    Settled platform (.tryIo interest)
      (shared.registration.meets .attemptClear fun registration =>
        (registration.clear tokio).map (TaskPoll.error? ∘ .ready))
      (((clear platform shared.registration tokio).2.intoIoResult.andThen
        fun _ => .returned (.error blocking)).map .ready) := by
  refine settled_meets nofun trivial ?_ ?_ ?_
  · intro usable closed
    rw [clear_of_closed usable closed]
    exact ⟨_, rfl⟩
  · intro registration failure usable found fails
    rw [intoIoResult_of_error usable found (map_clear_eq_iff.mp fails)]
    exact ⟨_, rfl, sameAs_decoded_iff platform failure⟩
  · intro registration usable found answers
    obtain ⟨answer, answers⟩ := exists_of_map answers
    cases answer with
    | error error =>
        rw [intoIoResult_of_error usable found answers]
        exact ⟨_, rfl⟩
    | ok done =>
        simp only [clear, Resource.withValue, usable, found, answers,
          Bool.false_eq_true, if_false]
        exact ⟨_, rfl⟩

theorem settled_clearReadiness {met : Option Met}
    (here : ∀ found, met = some found → found.place = .clear) :
    Settled platform .clearReadiness met .cleared := by
  refine ⟨?_, nofun⟩
  rintro ⟨place, trouble⟩ rfl
  obtain rfl : place = .clear := here _ rfl
  exact iff_of_true
    ⟨fun _ => by rw [if_pos rfl], fun _ _ asks => absurd rfl asks⟩ trivial

theorem place_meets {T : Type} {resource : Resource T} {place : Place}
    {error : T → Ended (Option Error)} {met : Met}
    (meets : resource.meets place error = some met) :
    met.place = place := by
  unfold Resource.meets at meets
  split at meets
  · cases meets
    rfl
  · split at meets
    · cases meets
      rfl
    · split at meets
      · obtain ⟨_, _, rfl⟩ := Option.map_eq_some_iff.mp meets
        rfl
      · cases meets
        rfl

variable {world : World}

/-- The stored error is the one decoded from the host's. -/
def Stored.Decoded (stored : Stored) : Prop :=
  stored.error = stored.failure.decoded

theorem decoded_of_storing (reached : (program platform).Reachable world)
    {thread : Nat} {call : Call} {stored : Stored}
    (running : world.threads thread = some (.call call (.storing stored))) :
    stored.Decoded := by
  refine Program.local_invariant
    (fun held => ∀ call stored, held = .call call (.storing stored) →
      stored.Decoded) ?_ ?_ reached running _ _ rfl
  · rintro _ ⟨⟩ _ _ ⟨⟩
  · intro world thread current op next _ _ acts _ call stored same
    subst same
    obtain ⟨acts⟩ := acts
    cases acts with
    | storing tokio fails because =>
        unfold Resource.meets at because
        split at because
        · cases because
        · next usable =>
            split at because
            · cases because
            · next registration found =>
                split at because
                · next failure answers =>
                    obtain ⟨failure, rfl, same⟩ :=
                      Option.map_eq_some_iff.mp because
                    cases same
                    have decoded := @intoIoResult_of_error platform _ _ _ _
                      (by simpa using usable) found
                      (map_clear_eq_iff.mp answers)
                    rw [fails] at decoded
                    cases decoded
                    rfl
                · cases because

theorem error_change {shared : Shared} {target : Target}
    {update : {T : Type} → Resource T → Resource T} :
    (shared.change target update).error = shared.error := by
  cases target <;> rfl

/-- A stored error was there before, or has just been stored. -/
theorem error_of_apply {shared : Shared} {op : Op} {stored : Stored}
    (found : (op.apply platform shared).error = some stored) :
    shared.error = some stored ∨ op = .storeError stored := by
  cases op with
  | takeError => cases found
  | storeError later =>
      cases held : shared.error with
      | none => simpa [Op.apply, held] using found
      | some earlier => exact Or.inl (by simpa [Op.apply, held] using found)
  | register operation =>
      simp only [Op.apply] at found
      split at found <;> exact Or.inl found
  | updateWaker target waker => exact Or.inl (error_change.symm.trans found)
  | takeValue target => exact Or.inl (error_change.symm.trans found)
  | takeWaker target => exact Or.inl (error_change.symm.trans found)
  | _ => exact Or.inl found

theorem decoded_of_stored (reached : (program platform).Reachable world)
    {stored : Stored} (found : world.shared.error = some stored) :
    stored.Decoded := by
  refine Program.shared_invariant
    (fun shared => ∀ stored, shared.error = some stored → stored.Decoded)
    ?_ ?_ reached _ found
  · rintro _ ⟨registration, rfl⟩ stored found
    cases found
  · intro world thread current op next reached running acts kept stored
      found
    rcases error_of_apply found with earlier | rfl
    · exact kept stored earlier
    · cases acts with
      | call acts =>
          cases acts with
          | stores => exact decoded_of_storing reached running
      | close acts => cases acts

theorem settled_of_reachable
    (reached : (program platform).Reachable world)
    {thread : Nat} {call : Call} {met : Option Met} {outcome : Outcome}
    (running : world.threads thread =
      some (.call call (.returned met outcome))) :
    Settled platform call met outcome := by
  refine Program.local_invariant
    (fun held => ∀ call met outcome,
      held = .call call (.returned met outcome) →
      Settled platform call met outcome)
    ?_ ?_ reached running _ _ _ rfl
  · rintro _ ⟨⟩ _ _ _ ⟨⟩
  · intro world thread current op next reached _ acts _ call met outcome
      same
    subst same
    obtain ⟨acts⟩ := acts
    cases acts with
    | @stored _ stored asks found =>
        have decoded := decoded_of_stored reached found
        rw [Stored.Decoded] at decoded
        refine ⟨?_, nofun⟩
        rintro _ ⟨⟩
        rw [decoded]
        exact (agrees_failed_iff asks).trans (sameAs_decoded_iff platform _)
    | notUpdated waker unwinds => exact settled_of_panicked
    | polled tokio => exact settled_polled tokio
    | noFuture unwinds => exact settled_noFuture unwinds
    | notRegistered unwinds => exact settled_created
    | operationNotUpdated waker found unwinds => exact settled_of_panicked
    | completed tokio found ends => exact settled_completed tokio
    | tried tokio ends => exact settled_tried tokio
    | succeeded result => exact settled_of_returned
    | failed fails => exact settled_of_returned
    | attemptCleared tokio => exact settled_attemptCleared tokio
    | cleared tokio clears =>
        exact settled_clearReadiness fun _ meets => place_meets meets
    | notCleared tokio unwinds => exact settled_of_panicked
    | stores =>
        refine settled_clearReadiness ?_
        rintro _ ⟨⟩
        rfl

/-- A closed resource has not been poisoned: only a call on its value
poisons it, and a poisoned one is not closed any more. -/
def Resource.Clean {T : Type} (resource : Resource T) : Prop :=
  resource.inner.isClosed = true → resource.poisoned = false

theorem clean_withValue {T R : Type} {resource : Resource T}
    {call : T → Ended R} (clean : resource.Clean) :
    (resource.withValue call).1.Clean := by
  unfold Resource.withValue Resource.Clean HostResource.isClosed at *
  grind -ring -linarith

theorem clean_updateWaker {T : Type} {resource : Resource T}
    {waker : Nat} (clean : resource.Clean) :
    (resource.updateWaker waker).1.Clean := by
  unfold Resource.updateWaker
  split
  · exact clean
  · intro closed
    rw [HostResource.isClosed_updateWaker] at closed
    exact clean closed

theorem clean_takeValue {T : Type} {resource : Resource T}
    (clean : resource.Clean) : resource.takeValue.1.Clean := by
  unfold Resource.takeValue
  split
  · exact clean
  · next usable => exact fun _ => by simpa using usable

theorem clean_apply {shared : Shared} {op : Op}
    (clean : shared.registration.Clean) :
    (op.apply platform shared).registration.Clean := by
  cases op with
  | poll interest tokio => exact clean_withValue clean
  | tryReady interest tokio => exact clean_withValue clean
  | clear tokio => exact clean_withValue clean
  | register operation =>
      simp only [Op.apply]
      split <;> exact clean
  | updateWaker target waker =>
      cases target with
      | registration => exact clean_updateWaker clean
      | operation id => exact clean
  | takeValue target =>
      cases target with
      | registration => exact clean_takeValue clean
      | operation id => exact clean
  | takeWaker target =>
      cases target <;> exact clean
  | _ => exact clean

theorem clean_of_reachable
    (reached : (program platform).Reachable world) :
    world.shared.registration.Clean := by
  refine Program.shared_invariant (fun shared => shared.registration.Clean)
    ?_ ?_ reached
  · rintro _ ⟨registration, rfl⟩ _
    rfl
  · intro world thread current op next _ _ _ clean
    exact clean_apply clean

/-- A `clear_readiness` of a closed registration changes nothing. -/
theorem shared_of_clearReadiness
    (reached : (program platform).Reachable world)
    {thread : Nat} {op : Op} {after : World}
    (running : world.threads thread =
      some (.call .clearReadiness .called))
    (closed : world.shared.registration.inner.isClosed = true)
    (moves : (program platform).Moves thread op world after) :
    after.shared = world.shared := by
  obtain @⟨current, next, moving, acts⟩ := moves
  rw [running] at moving
  cases moving
  have usable := clean_of_reachable reached closed
  have absent : world.shared.registration.inner.value = none := by
    rwa [HostResource.isClosed, Option.isNone_iff_eq_none] at closed
  have kept : ∀ tokio, (program platform).apply (.clear tokio)
      world.shared = world.shared := by
    intro tokio
    change { world.shared with
      registration :=
        (clear platform world.shared.registration tokio).1 } = world.shared
    rw [clear_of_closed usable absent]
  cases acts with
  | call acts =>
      cases acts with
      | stored asks found => exact absurd rfl asks
      | asked asks free => exact absurd rfl asks
      | cleared tokio clears => exact kept tokio
      | notCleared tokio unwinds => exact kept tokio
      | storing tokio fails because => exact kept tokio

/-! ## No call is stuck -/

/-- The operation that a `readiness` waits for. -/
def Stage.operation? : Stage → Option Nat
  | .waiting id => some id
  | .polling id => some id
  | _ => none

theorem isSome_update_map {T : Type} {operations : Nat → Option T}
    {id other : Nat} {update : T → T} (has : (operations id).isSome) :
    (Function.update operations other ((operations other).map update)
      id).isSome := by
  by_cases same : id = other
  · subst same
    simpa using has
  · simpa [same] using has

theorem isSome_change {shared : Shared} {target : Target} {id : Nat}
    {update : {T : Type} → Resource T → Resource T}
    (has : (shared.operations id).isSome) :
    ((shared.change target update).operations id).isSome := by
  cases target with
  | registration => exact has
  | operation other => exact isSome_update_map has

theorem isSome_apply {shared : Shared} {op : Op} {id : Nat}
    (has : (shared.operations id).isSome) :
    ((op.apply platform shared).operations id).isSome := by
  cases op with
  | updateWaker target waker => exact isSome_change has
  | takeValue target => exact isSome_change has
  | takeWaker target => exact isSome_change has
  | register operation =>
      simp only [Op.apply]
      split
      · simp only [Function.update_apply]
        split
        · rfl
        · exact has
      · exact has
  | pollOperation other tokio => exact isSome_update_map has
  | _ => exact has

theorem isSome_of_operation
    (reached : (program platform).Reachable world)
    {thread : Nat} {call : Call} {stage : Stage} {id : Nat}
    (running : world.threads thread = some (.call call stage))
    (waits : stage.operation? = some id) :
    (world.shared.operations id).isSome := by
  refine Program.thread_invariant
    (fun shared held => ∀ call stage id, held = .call call stage →
      stage.operation? = some id → (shared.operations id).isSome)
    ?_ ?_ ?_ reached running _ _ _ rfl waits
  · rintro world _ _ ⟨⟩ _ _ _ ⟨⟩ ⟨⟩
  · intro world thread current op next _ _ acts kept call stage id same
      waits
    subst same
    obtain ⟨acts⟩ := acts
    cases acts with
    | @registered interest operation created =>
        cases waits
        have accepting : world.shared.accepting = true := by
          cases held : world.shared.accepting with
          | true => rfl
          | false =>
              rw [held] at created
              cases created
        simp [program, Op.apply, accepting]
    | operationUpdated waker found updates =>
        cases waits
        exact @isSome_apply platform _ (.updateWaker (.operation _) waker)
          _ (kept _ _ _ rfl rfl)
    | pending tokio found again =>
        cases waits
        exact isSome_update_map (kept _ _ _ rfl rfl)
    | _ => cases waits
  · intro world thread bystander current op next held _ _ _ _ _ kept call
      stage id same waits
    exact isSome_apply (kept call stage id same waits)

/-- Any answer. -/
def Tokio.idle : Tokio where
  pollReady := .returned .pending
  readyEvent := .returned ⟨0, ⟨0⟩, false⟩
  clearReady := .returned (.ok ())

/-- A decoded failure of `clear` comes from a failure of the host. -/
theorem meets_of_error {resource : Resource Registration} {tokio : Tokio}
    {error : Error}
    (fails : (clear platform resource tokio).2.intoIoResult =
      .returned (.error error)) :
    ∃ failure, (resource.meets .clear fun registration =>
      (registration.clear tokio).map (TaskPoll.error? ∘ .ready)) =
        some ⟨.clear, .failed failure⟩ := by
  unfold clear Resource.withValue at fails
  unfold Resource.meets
  split at fails
  · cases fails
  · next usable =>
      rw [if_neg usable]
      cases held : resource.inner.value with
      | none =>
          rw [held] at fails
          cases fails
      | some registration =>
          rw [held] at fails
          rcases answer : registration.clear tokio with (_ | _) | _
          · exact ⟨_, by simp only [answer]; rfl⟩
          · simp only [answer] at fails
            cases fails
          · simp only [answer] at fails
            cases fails

/-- The stages of each call. -/
def Call.Has : Call → Stage → Prop
  | .clearReadiness, .asked => False
  | .pollReady _, .updated => True
  | .readiness _, .future _ => True
  | .readiness _, .waiting _ => True
  | .readiness _, .polling _ => True
  | .tryIo _, .attempting => True
  | .tryIo _, .clearing _ => True
  | .clearReadiness, .storing _ => True
  | _, .called => True
  | _, .asked => True
  | _, .returned _ _ => True
  | _, _ => False

theorem has_of_running (reached : (program platform).Reachable world)
    {thread : Nat} {call : Call} {stage : Stage}
    (running : world.threads thread = some (.call call stage)) :
    call.Has stage := by
  refine Program.local_invariant
    (fun held => ∀ call stage, held = .call call stage → call.Has stage)
    ?_ ?_ reached running _ _ rfl
  · rintro _ (⟨call⟩ | _ | _) _ _ ⟨⟩
    cases call <;> trivial
  · intro world thread current op next _ _ acts _ call stage same
    subst same
    obtain ⟨acts⟩ := acts
    cases acts with
    | stored asks found => cases call <;> trivial
    | asked asks free => cases call <;> trivial
    | _ => trivial

section Moves

variable {shared : Shared}

theorem acts_called (call : Call) :
    ∃ op next, Call.Acts platform shared call .called op next := by
  by_cases clears : call = .clearReadiness
  · subst clears
    rcases ended : (clear platform shared.registration .idle).2.intoIoResult
      with (error | ⟨⟩) | payload
    · obtain ⟨failure, because⟩ := meets_of_error ended
      exact ⟨_, _, .storing .idle ended because⟩
    · exact ⟨_, _, .cleared .idle ended⟩
    · exact ⟨_, _, .notCleared .idle ended⟩
  · cases held : shared.error with
    | none => exact ⟨_, _, .asked clears held⟩
    | some stored => exact ⟨_, _, .stored clears held⟩

theorem acts_asked {call : Call} (has : call.Has .asked) :
    ∃ op next, Call.Acts platform shared call .asked op next := by
  cases call with
  | clearReadiness => exact has.elim
  | pollReady direction =>
      rcases ended : (shared.registration.updateWaker 0).2 with ⟨⟩ | payload
      · exact ⟨_, _, .updated 0 ended⟩
      · exact ⟨_, _, .notUpdated 0 ended⟩
  | readiness interest =>
      rcases built : readyFuture shared.registration
        (telekioInterest interest) with (message | operation) | payload
      · exact ⟨_, _, .noFuture (by rw [built]; rfl)⟩
      · exact ⟨_, _, .future built⟩
      · exact ⟨_, _, .noFuture (by rw [built]; rfl)⟩
  | tryIo interest =>
      by_cases allowed : decodeTry (tryReady platform shared.registration
        (telekioInterest interest) .idle).2 = .returned (.ok ())
      · exact ⟨_, _, .attempting .idle allowed⟩
      · exact ⟨_, _, .tried .idle allowed⟩

theorem acts_future {interest : Interest} {operation : Operation} :
    ∃ op next, Call.Acts platform shared (.readiness interest)
      (.future operation) op next := by
  rcases ended : decodeOperation platform (ready (.returned
    (registerOperation shared.accepting))) with ⟨⟩ | payload
  · exact ⟨_, _, .registered ended⟩
  · exact ⟨_, _, .notRegistered ended⟩

theorem acts_waiting {interest : Interest} {id : Nat}
    (has : (shared.operations id).isSome) :
    ∃ op next, Call.Acts platform shared (.readiness interest)
      (.waiting id) op next := by
  obtain ⟨resource, found⟩ := Option.isSome_iff_exists.mp has
  rcases ended : (resource.updateWaker 0).2 with ⟨⟩ | payload
  · exact ⟨_, _, .operationUpdated 0 found ended⟩
  · exact ⟨_, _, .operationNotUpdated 0 found ended⟩

theorem acts_polling {interest : Interest} {id : Nat}
    (has : (shared.operations id).isSome) :
    ∃ op next, Call.Acts platform shared (.readiness interest)
      (.polling id) op next := by
  obtain ⟨resource, found⟩ := Option.isSome_iff_exists.mp has
  by_cases waits : decodeReadiness platform
    (pollOperation platform resource .idle).2 = .returned .pending
  · exact ⟨_, _, .pending .idle found waits⟩
  · exact ⟨_, _, .completed .idle found waits⟩

end Moves

/-- Every call can go on until it has returned. -/
theorem exists_moves (reached : (program platform).Reachable world)
    {thread : Nat} {call : Call} {stage : Stage}
    (running : world.threads thread = some (.call call stage))
    (unreturned : ∀ met outcome, stage ≠ .returned met outcome) :
    ∃ op after, (program platform).Moves thread op world after := by
  suffices moves : ∃ op next,
      Call.Acts platform world.shared call stage op next by
    obtain ⟨op, next, acts⟩ := moves
    exact ⟨op, _, .mk running (.call acts)⟩
  have has := has_of_running reached running
  cases stage with
  | returned met outcome => exact absurd rfl (unreturned met outcome)
  | called => exact acts_called call
  | asked => exact acts_asked has
  | updated =>
      cases call with
      | pollReady direction => exact ⟨_, _, .polled .idle⟩
      | _ => exact has.elim
  | future operation =>
      cases call with
      | readiness interest => exact acts_future
      | _ => exact has.elim
  | waiting id =>
      cases call with
      | readiness interest =>
          exact acts_waiting (isSome_of_operation reached running rfl)
      | _ => exact has.elim
  | polling id =>
      cases call with
      | readiness interest =>
          exact acts_polling (isSome_of_operation reached running rfl)
      | _ => exact has.elim
  | attempting =>
      cases call with
      | tryIo interest => exact ⟨_, _, .succeeded 0⟩
      | _ => exact has.elim
  | clearing error =>
      cases call with
      | tryIo interest => exact ⟨_, _, .attemptCleared .idle⟩
      | _ => exact has.elim
  | storing stored =>
      cases call with
      | clearReadiness => exact ⟨_, _, .stores⟩
      | _ => exact has.elim

/-- A finished call agrees with the others on the failure it met exactly when
its operation was made and its guest decoder keeps the error; a call unwinds
only for a panic or a refused operation; clearing a closed registration does
nothing; and no call is stuck before it returns. -/
theorem entryPoints_agree_iff
    (reached : (program platform).Reachable world) :
    (∀ thread call met outcome,
      world.threads thread =
        some (.call call (.returned (some met) outcome)) →
      (Agrees platform call met outcome ↔ Kept platform met)) ∧
    (∀ thread call met outcome,
      world.threads thread = some (.call call (.returned met outcome)) →
      Blamed met outcome) ∧
    (∀ thread op after,
      world.threads thread = some (.call .clearReadiness .called) →
      world.shared.registration.inner.isClosed = true →
      (program platform).Moves thread op world after →
      after.shared = world.shared) ∧
    ∀ thread call stage,
      world.threads thread = some (.call call stage) →
      (∀ met outcome, stage ≠ .returned met outcome) →
      ∃ op after, (program platform).Moves thread op world after :=
  ⟨fun _ _ met _ running =>
      (settled_of_reachable reached running).agrees met rfl,
    fun _ _ _ _ running => (settled_of_reachable reached running).blamed,
    fun _ _ _ running closed moves =>
      shared_of_clearReadiness reached running closed moves,
    fun _ _ _ running unreturned =>
      exists_moves reached running unreturned⟩

/-- A platform without codes; all errors with a message are of the kind
`Other`. -/
def noCodes : Platform where
  decodeErrorKind := fun _ => .uncategorized
  errorString := fun _ => ""
  debug := fun
    | .os code => "Os \x7b code: " ++ toString code ++
        ", kind: Uncategorized, message: \"\" \x7d"
    | .custom _ message =>
        "Custom \x7b kind: Other, error: " ++ message.quote ++ " \x7d"

theorem reachable_fresh :
    (program noCodes).Reachable (.quiet (.fresh .fd)) :=
  .quiet ⟨.fd, rfl⟩

/-- A `poll_read_ready` meets the closed registration. -/
theorem entryPoints_agree_of_poll :
    ∃ world met outcome, (program noCodes).Reachable world ∧
      world.threads 0 =
        some (.call (.pollReady .read) (.returned (some met) outcome)) ∧
      Agrees noCodes (.pollReady .read) met outcome := by
  have called := reachable_fresh.fork 0 rfl (.call (.pollReady .read))
  have asked := called.move 0 rfl (.call (.asked nofun rfl))
  have updated := asked.move 0 rfl (.call (.updated 3 rfl))
  have stopping := updated.fork 1 rfl .cutoff
  have stopped := stopping.move 1 rfl .cutoff
  have closing := stopped.fork 2 rfl (.close .registration)
  have closed := closing.move 2 rfl (.close (.taken rfl rfl))
  have polled := closed.move 0 rfl (.call (.polled .idle))
  exact ⟨_, _, _, polled, rfl,
    ((entryPoints_agree_iff polled).1 0 _ ⟨.poll, .refused⟩ _ rfl).mpr
      trivial⟩

/-- A `readiness` unwinds that makes its operation after the cutoff. -/
theorem not_forall_agree :
    ¬ ∀ platform world thread call met outcome,
      (program platform).Reachable world →
      world.threads thread =
        some (.call call (.returned (some met) outcome)) →
      Agrees platform call met outcome := by
  intro agree
  have called := reachable_fresh.fork 0 rfl (.call (.readiness .readable))
  have asked := called.move 0 rfl (.call (.asked nofun rfl))
  have future := asked.move 0 rfl (.call (.future rfl))
  have stopping := future.fork 1 rfl .cutoff
  have stopped := stopping.move 1 rfl .cutoff
  have unwound := stopped.move 0 rfl (.call (.notRegistered rfl))
  have agrees :=
    agree _ _ 0 (.readiness .readable) ⟨.create, .refused⟩ _ unwound rfl
  refine not_agrees_unwound ?_ agrees
  nofun

end Telekio.Readiness
