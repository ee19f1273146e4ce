import Telekio.Bridge.Records
import Telekio.Hooks.System

/-!
# The runtimes of a plugin and their threads

How the stages of the runtimes follow the owner's system, and which threads
move them: a runtime is taken by one close, which ends it.
-/

namespace Telekio.Hooks

open Telekio.Interleave
open Telekio.Owner

variable {world : World} {shared : Shared} {op : Op}
variable {current next : Thread}

attribute [local simp] Op.runtimes

theorem reachable_below (reached : program.Reachable world) :
    Bridge.program.Reachable
      (Program.lower Shared.bridge Thread.down world) :=
  bridgeLayer.reachable_lower reached

theorem running_below {thread : Nat} {found : Bridge.Thread}
    (running : world.threads thread = some current)
    (has : current.down = some found) :
    (Program.lower Shared.bridge Thread.down world).threads thread =
      some found := by
  simp [Program.lower, running, has]

theorem plain_of_entry {entry after : Bridge.Entry} {op : Bridge.Op}
    (acts : Bridge.Entry.Acts shared.bridge entry op after) :
    Op.plain op := by
  cases acts with
  | drop leaving drops => cases drops <;> trivial
  | _ => trivial

theorem below_of_acts {op : Bridge.Op}
    (acts : Thread.Acts shared current (.bridge op) next) :
    Op.plain op ∧ ∃ found after, current.down = some found ∧
      Bridge.Thread.Acts shared.bridge found op after := by
  cases acts with
  | call acts plain => exact ⟨plain, _, _, rfl, acts⟩
  | future acts plain same => exact ⟨plain, _, _, rfl, .shutdown acts⟩
  | observe acts => exact ⟨plain_of_entry acts, _, _, rfl, .entry acts⟩

/-- Only a `build` call inside its activity makes a runtime. -/
theorem of_newRuntime {found after : Bridge.Thread}
    {runtime : RuntimeRef} {kind : RuntimeKind}
    (acts : Bridge.Thread.Acts shared.bridge found
      (.newRuntime runtime kind) after) :
    shared.bridge.runtimes runtime = none ∧ kind.isClosed = false ∧
      found.insideActivity := by
  obtain ⟨build, rfl⟩ := Bridge.Thread.performs_of_acts acts
  cases acts with
  | build acts =>
      cases acts with
      | buildRuntime _ _ inside flavor fresh =>
          refine ⟨fresh, ?_, Or.inl inside⟩
          rcases flavor with rfl | rfl <;> rfl
      | drop leaving drops => cases drops

/-- Only an `observe_workers` call inside its activity adds an observer. -/
theorem of_observeWorkers {found after : Bridge.Thread}
    {context : ContextRef}
    (acts : Bridge.Thread.Acts shared.bridge found
      (.observeWorkers context) after) : found.insideActivity := by
  obtain ⟨entry, rfl⟩ := Bridge.Thread.performs_of_acts acts
  cases acts with
  | entry acts =>
      cases acts with
      | observe observes inside => exact ⟨_, inside⟩
      | drop leaving drops => cases drops

/-- A runtime that runs is one that the owner's system knows and that is not
closed there; one without a `Runtime` to run it has no threads. -/
structure Linked (shared : Shared) (runtime : RuntimeRef) : Prop where
  known : shared.runtimes runtime ≠ .absent →
    shared.bridge.runtimes runtime ≠ none
  isOpen : shared.runtimes runtime = .running →
    shared.bridge.runtimeClosed runtime = false
  threadless : shared.runtimes runtime = .absent ∨
    shared.runtimes runtime = .joined → shared.threads runtime = 0

theorem Linked.of_same {after : Shared} {runtime : RuntimeRef}
    (linked : Linked shared runtime)
    (stage : after.runtimes runtime = shared.runtimes runtime)
    (below :
      after.bridge.runtimes runtime = shared.bridge.runtimes runtime)
    (threads : after.threads runtime = shared.threads runtime) :
    Linked after runtime := by
  obtain ⟨known, isOpen, threadless⟩ := linked
  constructor
  · rwa [stage, below]
  · rwa [stage, Bridge.Shared.runtimeClosed, below]
  · rwa [stage, threads]

theorem linked_bridge {runtime : RuntimeRef} {op : Bridge.Op}
    {found after : Bridge.Thread} (plain : Op.plain op)
    (acts : Bridge.Thread.Acts shared.bridge found op after)
    (linked : Linked shared runtime) :
    Linked ((Op.bridge op).apply shared) runtime := by
  cases op with
  | newRuntime made kind =>
      obtain ⟨_, isOpen, _⟩ := of_newRuntime acts
      by_cases same : runtime = made
      · subst same
        constructor <;>
          simp [Op.apply, Op.runtimes, Op.bridgeState, Op.below,
            Bridge.Op.apply, Bridge.Op.runtimes, isOpen,
            Bridge.Shared.runtimeClosed]
      · exact linked.of_same (Function.update_of_ne same _ _)
          (Function.update_of_ne same _ _) rfl
  | closeRuntime _ _ => exact plain.elim
  | unregisterRuntime _ => exact plain.elim
  | _ => exact linked.of_same rfl rfl rfl

theorem takes_iff {runtime : RuntimeRef} {origin : Nat} :
    shared.takes runtime origin = true ↔
      shared.runtimes runtime = .running ∧
        ∃ kind, shared.bridge.runtimes runtime = some kind ∧
          (kind.close origin).1.isClosed = true := by
  simp [Shared.takes, Option.any_eq_true]

/-- A close that does not take the runtime leaves it open, or finds it
taken. -/
theorem linked_close_of_not_takes {runtime : RuntimeRef} {origin : Nat}
    {closer : Closer} (takesNot : shared.takes runtime origin = false)
    (linked : Linked shared runtime) :
    Linked ((Op.close runtime origin closer).apply shared) runtime := by
  have stage : (Op.close runtime origin closer).runtimes shared =
      shared.runtimes := by
    simp [Op.runtimes, takesNot]
  have below : ((Op.close runtime origin closer).apply
      shared).bridge.runtimes runtime =
      (shared.bridge.runtimes runtime).map fun kind =>
        (kind.close origin).1 :=
    Function.update_self _ _ _
  obtain ⟨known, isOpen, threadless⟩ := linked
  refine ⟨fun made => ?_, fun runs => ?_, fun stopped => ?_⟩
  · rw [below, ne_eq, Option.map_eq_none_iff]
    exact known (stage ▸ made)
  · rw [← Bool.not_eq_true, Bridge.Shared.runtimeClosed_iff, below]
    rintro ⟨after, found, isClosed⟩
    obtain ⟨kind, held, rfl⟩ := Option.map_eq_some_iff.mp found
    have takes := takes_iff.mpr ⟨stage ▸ runs, kind, held, isClosed⟩
    exact nomatch takesNot.symm.trans takes
  · exact threadless (stage ▸ stopped)

theorem linked_close {runtime closed : RuntimeRef} {origin : Nat}
    {closer : Closer} (linked : Linked shared runtime) :
    Linked ((Op.close closed origin closer).apply shared) runtime := by
  by_cases same : runtime = closed
  · subst same
    cases takes : shared.takes runtime origin with
    | false => exact linked_close_of_not_takes takes linked
    | true =>
        obtain ⟨_, kind, found, _⟩ := takes_iff.mp takes
        constructor <;>
          simp [Op.apply, Op.runtimes, Op.bridgeState, Op.below,
            Bridge.Op.apply, Bridge.Op.runtimes, takes, found]
  · refine linked.of_same ?_ (Function.update_of_ne same _ _) rfl
    simp only [Op.apply, Op.runtimes]
    split
    · exact Function.update_of_ne same _ _
    · rfl

theorem linked_release {runtime released : RuntimeRef} {id : Nat}
    {last : Bool} (linked : Linked shared runtime) :
    Linked ((Op.release id released last).apply shared) runtime := by
  by_cases same : runtime = released
  · subst same
    cases last with
    | false => exact linked.of_same rfl rfl rfl
    | true =>
        by_cases runs : shared.runtimes runtime = .running
        · refine ⟨fun _ => linked.known (by simp [runs]), ?_, ?_⟩ <;>
            simp [Op.apply, Op.runtimes, runs]
        · refine linked.of_same ?_ rfl rfl
          simp [Op.apply, Op.runtimes, runs]
  · refine linked.of_same ?_ rfl rfl
    simp only [Op.apply, Op.runtimes]
    split
    · exact Function.update_of_ne same _ _
    · rfl

theorem linked_finishClose {runtime finished : RuntimeRef}
    {mode : ShutdownMode}
    (joined : mode = .wait → shared.threads finished = 0)
    (linked : Linked shared runtime) :
    Linked ((Op.finishClose finished mode).apply shared) runtime := by
  by_cases same : runtime = finished
  · subst same
    have stage : (Op.finishClose runtime mode).runtimes shared runtime =
        (shared.runtimes runtime).finish mode :=
      Function.update_self _ _ _
    cases before : shared.runtimes runtime with
    | taken closer =>
        rw [before] at stage
        refine ⟨fun _ => linked.known (by simp [before]), ?_, ?_⟩ <;>
          simp only [Op.apply, stage, RuntimeStage.finish] <;>
          by_cases waits : mode = .wait
        · simp [waits]
        · simp [waits]
        · exact fun _ => joined waits
        · simp [waits]
    | _ =>
        rw [before] at stage
        exact linked.of_same (stage.trans before.symm) rfl rfl
  · exact linked.of_same (Function.update_of_ne same _ _) rfl rfl

theorem linked_startThread {runtime started : RuntimeRef}
    (startable : shared.startable started)
    (linked : Linked shared runtime) :
    Linked ((Op.startThread started).apply shared) runtime := by
  by_cases same : runtime = started
  · subst same
    refine ⟨linked.known, linked.isOpen, fun stopped => ?_⟩
    have before : shared.runtimes runtime = .absent ∨
        shared.runtimes runtime = .joined := stopped
    rcases startable with runs | busy | ⟨⟨closer, taken⟩, _⟩
    · simp [runs] at before
    · exact absurd (linked.threadless before) busy
    · simp [taken] at before
  · exact linked.of_same rfl rfl (Function.update_of_ne same _ _)

theorem linked_exitThread {runtime exited : RuntimeRef}
    (linked : Linked shared runtime) :
    Linked ((Op.exitThread exited).apply shared) runtime := by
  by_cases same : runtime = exited
  · subst same
    refine ⟨linked.known, linked.isOpen, fun stopped => ?_⟩
    simp [Op.apply, Op.threads, linked.threadless stopped]
  · exact linked.of_same rfl rfl (Function.update_of_ne same _ _)

theorem linked_of_acts {runtime : RuntimeRef}
    (acts : Thread.Acts shared current op next)
    (linked : Linked shared runtime) :
    Linked (op.apply shared) runtime := by
  cases op with
  | bridge op =>
      obtain ⟨plain, _, _, _, acts⟩ := below_of_acts acts
      exact linked_bridge plain acts linked
  | close closed origin closer => exact linked_close linked
  | release id released last => exact linked_release linked
  | finishClose finished mode =>
      cases acts with
      | finishClose joined => exact linked_finishClose joined linked
  | startThread started =>
      cases acts with
      | start startable => exact linked_startThread startable linked
  | exitThread exited => exact linked_exitThread linked
  | _ => exact linked.of_same rfl rfl rfl

theorem linked (reached : program.Reachable world)
    (runtime : RuntimeRef) : Linked world.shared runtime := by
  refine Program.shared_invariant (fun shared => Linked shared runtime)
    ?_ ?_ reached
  · rintro shared rfl
    constructor <;> simp [Shared.fresh]
  · intro world thread current op next _ _ acts before
    exact linked_of_acts acts before

/-! ## The closes -/

/-- The close that a thread is in the middle of. -/
def Thread.closing : Thread → Option Closing
  | .call _ closing => closing
  | _ => none

/-- What a move does to the stage of a runtime. -/
inductive StageChange (runtime : RuntimeRef) (current next : Thread) :
    RuntimeStage → RuntimeStage → Prop
  | same {stage : RuntimeStage} :
      StageChange runtime current next stage stage
  | made {found : Bridge.Thread} (has : current.down = some found)
      (inside : found.insideActivity) :
      StageChange runtime current next .absent .running
  | taken {closing : Closing} (starts : next.closing = some closing)
      (own : closing.runtime = runtime) :
      StageChange runtime current next .running (.taken closing.closer)
  | finished {stage : RuntimeStage} {closing : Closing}
      (closes : current.closing = some closing)
      (own : closing.runtime = runtime) (ends : next.closing = none) :
      StageChange runtime current next stage (stage.finish closing.mode)

/-- An update of one stage is a change of that runtime alone. -/
theorem stageChange_update {runtime changed : RuntimeRef}
    {stage : RuntimeStage}
    (own : changed = runtime →
      StageChange runtime current next (shared.runtimes runtime) stage) :
    StageChange runtime current next (shared.runtimes runtime)
      (Function.update shared.runtimes changed stage runtime) := by
  by_cases same : runtime = changed
  · subst same
    rw [Function.update_self]
    exact own rfl
  · rw [Function.update_of_ne same]
    exact .same

theorem stageChange_of_acts {runtime : RuntimeRef}
    (linked : Linked shared runtime)
    (acts : Thread.Acts shared current op next) :
    StageChange runtime current next (shared.runtimes runtime)
      (op.runtimes shared runtime) := by
  cases op with
  | bridge op =>
      cases op with
      | newRuntime made kind =>
          obtain ⟨_, _, _, has, below⟩ := below_of_acts acts
          obtain ⟨fresh, _, inside⟩ := of_newRuntime below
          refine stageChange_update fun same => ?_
          subst same
          have absent : shared.runtimes made = .absent := by
            by_contra exists_
            exact linked.known exists_ fresh
          rw [absent]
          exact .made has inside
      | _ => exact .same
  | close closed origin closer =>
      cases acts with
      | @close thread after _ _ _ mode acts closes takes =>
          rw [Op.runtimes, if_pos takes]
          refine stageChange_update fun same => ?_
          subst same
          rw [(takes_iff.mp takes).1]
          exact @StageChange.taken closed _ _ ⟨closed, mode, closer⟩ rfl
            rfl
      | closeNothing acts closes takesNot =>
          rw [Op.runtimes, if_neg (Bool.eq_false_iff.mp takesNot)]
          exact .same
  | release id released last =>
      cases acts with
      | releaseLast live acts running =>
          rw [Op.runtimes, if_pos (by simp [running])]
          refine stageChange_update fun same => ?_
          subst same
          rw [running]
          exact @StageChange.taken released _ _
            ⟨released, .wait, .guest⟩ rfl rfl
      | release live acts keeps =>
          rw [Op.runtimes, if_neg (by
            rcases keeps with rfl | keeps <;> simp [*])]
          exact .same
  | finishClose finished mode =>
      cases acts with
      | finishClose joined =>
          exact stageChange_update fun same => same ▸
            .finished rfl rfl rfl
  | _ => exact .same

/-- A runtime that runs did so before, or is made inside an activity. -/
theorem running_of_acts {runtime : RuntimeRef}
    (linked : Linked shared runtime)
    (acts : Thread.Acts shared current op next)
    (runs : op.runtimes shared runtime = .running) :
    shared.runtimes runtime = .running ∨
      ∃ found, current.down = some found ∧ found.insideActivity := by
  have change := stageChange_of_acts linked acts
  generalize shared.runtimes runtime = before at change ⊢
  generalize op.runtimes shared runtime = after at change runs
  cases change with
  | same => exact Or.inl runs
  | made has inside => exact Or.inr ⟨_, has, inside⟩
  | taken starts own => exact Or.inl rfl
  | finished closes own ends =>
      exact Or.inl (RuntimeStage.finish_eq_running runs)

/-- A taken runtime was taken before, or is taken by the close that the
thread begins. -/
theorem taken_of_acts {runtime : RuntimeRef} {closer : Closer}
    (linked : Linked shared runtime)
    (acts : Thread.Acts shared current op next)
    (taken : op.runtimes shared runtime = .taken closer) :
    shared.runtimes runtime = .taken closer ∨
      (shared.runtimes runtime = .running ∧ ∃ closing,
        next.closing = some closing ∧ closing.runtime = runtime) := by
  have change := stageChange_of_acts linked acts
  generalize shared.runtimes runtime = before at change ⊢
  generalize op.runtimes shared runtime = after at change taken
  cases change with
  | same => exact Or.inl taken
  | made has inside => cases taken
  | taken starts own => exact Or.inr ⟨rfl, _, starts, own⟩
  | finished closes own ends =>
      exact absurd taken RuntimeStage.finish_ne_taken

/-- A taken runtime stays so until the end of its close. -/
theorem taken_or_finished_of_acts {runtime : RuntimeRef} {closer : Closer}
    (linked : Linked shared runtime)
    (acts : Thread.Acts shared current op next)
    (taken : shared.runtimes runtime = .taken closer) :
    op.runtimes shared runtime = .taken closer ∨ ∃ closing,
      current.closing = some closing ∧ closing.runtime = runtime ∧
        next.closing = none := by
  have change := stageChange_of_acts linked acts
  rw [taken] at change
  generalize op.runtimes shared runtime = stage at change ⊢
  cases change with
  | same => exact Or.inl rfl
  | finished closes own ends => exact Or.inr ⟨_, closes, own, ends⟩

/-- A close begins by taking a running runtime. -/
theorem closing_of_acts {closing : Closing}
    (acts : Thread.Acts shared current op next)
    (closes : next.closing = some closing) :
    current.closing = some closing ∨
      (shared.runtimes closing.runtime = .running ∧
        op.runtimes shared closing.runtime = .taken closing.closer) := by
  cases acts with
  | close acts closes' takes =>
      cases closes
      exact Or.inr ⟨(takes_iff.mp takes).1, by
        simp [Op.runtimes, takes]⟩
  | releaseLast live acts running =>
      cases closes
      exact Or.inr ⟨running, by simp [Op.runtimes, running]⟩
  | future acts plain same => exact Or.inl closes
  | _ => cases closes

/-- The thread is in the middle of a close of the runtime. -/
def Thread.isClosing (thread : Thread) (runtime : RuntimeRef) : Prop :=
  ∃ closing, thread.closing = some closing ∧ closing.runtime = runtime

/-- The runtime is out of its `RuntimeOwner`, in the hands of a close. -/
def Shared.isTaken (shared : Shared) (runtime : RuntimeRef) : Prop :=
  ∃ closer, shared.runtimes runtime = .taken closer

/-- A taken runtime is owned by the close that has taken it. -/
theorem closingOwning :
    program.Owning Shared.isTaken Thread.isClosing where
  starts := by
    rintro first runtime starts ⟨closing, closes, _⟩
    cases starts <;> cases closes
  acquires := by
    rintro world thread current op next _ reached running acts
      ⟨closing, closes, rfl⟩
    rcases closing_of_acts acts closes with already | ⟨runs, _⟩
    · exact Or.inl ⟨closing, already, rfl⟩
    · refine Or.inr fun ⟨closer, taken⟩ => ?_
      exact nomatch runs.symm.trans taken
  keeps := by
    rintro world thread current op next _ reached running acts present
      ⟨closing, closes, rfl⟩
    rcases closing_of_acts acts closes with already | ⟨_, taken⟩
    · obtain ⟨closer, taken⟩ := present ⟨closing, already, rfl⟩
      rcases taken_or_finished_of_acts (linked reached closing.runtime)
          acts taken with still | ⟨_, _, _, ends⟩
      · exact ⟨closer, still⟩
      · exact nomatch ends.symm.trans closes
    · exact ⟨_, taken⟩
  releases := by
    rintro world thread current op next runtime reached running acts
      ⟨closer, taken⟩ released
    rcases taken_or_finished_of_acts (linked reached runtime) acts taken
      with still | ⟨closing, closes, own, _⟩
    · exact absurd ⟨closer, still⟩ released
    · exact ⟨closing, closes, own⟩

/-- Who takes a runtime holds it until the end of its close. -/
theorem closingKeeping :
    program.Keeping Shared.isTaken Thread.isClosing where
  absent := by
    rintro shared runtime rfl ⟨closer, taken⟩
    cases taken
  introduces := by
    rintro world thread current op next runtime reached running acts
      notTaken ⟨closer, taken⟩
    rcases taken_of_acts (linked reached runtime) acts taken with
      before | ⟨_, closing⟩
    · exact absurd ⟨closer, before⟩ notTaken
    · exact closing
  retains := by
    rintro world thread current op next runtime reached running acts
      ⟨closing, closes, own⟩ ⟨closer, taken⟩
    cases acts with
    | future acts plain same => exact ⟨closing, closes, own⟩
    | @finishClose thread closing' joined =>
        cases closes
        have ended : (Op.finishClose closing.runtime
            closing.mode).runtimes world.shared runtime =
            (world.shared.runtimes runtime).finish closing.mode := by
          rw [← own]
          exact Function.update_self _ _ _
        exact absurd (ended.symm.trans taken) RuntimeStage.finish_ne_taken
    | _ => cases closes

theorem taken_of_closing (reached : program.Reachable world)
    {thread : Nat} {found : Thread} {closing : Closing}
    (running : world.threads thread = some found)
    (closes : found.closing = some closing) :
    world.shared.runtimes closing.runtime = .taken closing.closer := by
  refine Program.thread_invariant
    (fun shared held => ∀ closing, held.closing = some closing →
      shared.runtimes closing.runtime = .taken closing.closer)
    ?_ ?_ ?_ reached running closing closes
  · intro world first _ starts closing closes
    cases starts <;> cases closes
  · intro world thread current op next reached running acts earlier
      closing closes
    rcases closing_of_acts acts closes with already | ⟨_, taken⟩
    · rcases taken_or_finished_of_acts (linked reached closing.runtime)
          acts (earlier closing already) with still | ⟨_, _, _, ends⟩
      · exact still
      · exact nomatch ends.symm.trans closes
    · exact taken
  · intro world thread bystander current op next held reached different
      running holding acts earlier closing closes
    rcases taken_or_finished_of_acts (linked reached closing.runtime)
        acts (earlier closing closes) with still | ⟨other, closes', own, _⟩
    · exact still
    · exact absurd ⟨other, closes', own⟩ (closingOwning.exclusive reached
        different holding running ⟨closing, closes, rfl⟩)

/-- The thread is a live host thread of the runtime. -/
def Thread.threadsOf (runtime : RuntimeRef) : Thread → Nat
  | .worker other .alive => if other = runtime then 1 else 0
  | _ => 0

/-- The thread holds a clone of the observer. -/
def Thread.clonesOf (context : ContextRef) : Thread → Nat
  | .observation _ other .cloned => if other = context then 1 else 0
  | _ => 0

theorem threadsCounting (runtime : RuntimeRef) :
    program.Counting (fun shared => shared.threads runtime)
      (Thread.threadsOf runtime) where
  initially := by
    rintro shared rfl
    rfl
  starts := by
    intro first starts
    cases starts <;> rfl
  moves := by
    intro world thread current op next _ _ acts counted
    cases acts with
    | @start started startable =>
        by_cases same : runtime = started
        · subst same
          simp [program, Op.apply, Op.threads, Thread.threadsOf]
        · simp [program, Op.apply, Op.threads, Thread.threadsOf, same,
            Ne.symm same]
    | @exit exited =>
        by_cases same : runtime = exited
        · subst same
          simp only [Thread.threadsOf, if_true] at counted
          simp [program, Op.apply, Op.threads, Thread.threadsOf,
            Nat.sub_add_cancel counted]
        · simp [program, Op.apply, Op.threads, Thread.threadsOf, same,
            Ne.symm same]
    | _ => rfl

theorem clonesCounting (context : ContextRef) :
    program.Counting (fun shared => shared.clones context)
      (Thread.clonesOf context) where
  initially := by
    rintro shared rfl
    rfl
  starts := by
    intro first starts
    cases starts <;> rfl
  moves := by
    intro world thread current op next _ _ acts counted
    cases acts with
    | @clone entry cloned observed =>
        by_cases same : context = cloned
        · subst same
          simp [program, Op.apply, Op.clones, Thread.clonesOf]
        · simp [program, Op.apply, Op.clones, Thread.clonesOf, same,
            Ne.symm same]
    | @dropClone entry dropped returned =>
        by_cases same : context = dropped
        · subst same
          simp only [Thread.clonesOf, if_true] at counted
          simp [program, Op.apply, Op.clones, Thread.clonesOf,
            Nat.sub_add_cancel counted]
        · simp [program, Op.apply, Op.clones, Thread.clonesOf, same,
            Ne.symm same]
    | _ => rfl

end Telekio.Hooks
