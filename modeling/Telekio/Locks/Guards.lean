import Telekio.Interleave.Counting
import Telekio.Interleave.Ownership
import Telekio.Locks.System

/-!
# Who holds the locks and who waits for them

The shared state of the locks is exact: `scan` belongs to one scan and names
the runtime that it waits for, `queued` counts the writers that wait for a
kind, and `entered` counts the calls of `runtime_block_on` inside it.
-/

namespace Telekio.Locks

open Telekio.Interleave
open Telekio.Owner

variable {world : World} {shared : Shared} {op : Op}

/-- The runtime that a scan waits for. -/
def Scanning.at : Scanning → Option RuntimeRef
  | .waiting _ runtime => some runtime
  | _ => none

/-- The steps that change who holds the mutex, or what for. -/
def Op.scan (op : Op) (held : Option (Option RuntimeRef)) :
    Option (Option RuntimeRef) :=
  match op with
  | .lockState => some none
  | .wait runtime => some (some runtime)
  | .look _ => some none
  | .unlockState => none
  | .cutoff => none
  | .clear => none
  | _ => held

attribute [local simp] Op.apply

theorem scan_apply : (op.apply shared).scan = op.scan shared.scan := by
  cases op with
  | beginActivity =>
      simp only [Op.apply]
      split <;> rfl
  | register runtime =>
      simp only [Op.apply]
      split <;> rfl
  | _ => rfl

theorem scan_close {thread : Nat} {runtime : RuntimeRef}
    {call next : Close} {held : Option (Option RuntimeRef)}
    (acts : Close.Acts shared thread runtime call op next) :
    op.scan held = held := by
  cases acts <;> rfl

/-- A scan that goes on keeps the mutex and tells what it waits for. -/
theorem scan_scanning {scanning next : Scanning}
    (acts : Scanning.Acts shared scanning op next)
    (held : shared.scan = some scanning.at) :
    op.scan shared.scan = some next.at := by
  cases acts with
  | wait => rfl
  | look unwritten => rfl
  | pass passes => exact held
  | stop stops => exact held
  | finish => exact held

/-- What a move does to the mutex: nothing, a new scan takes it, or a scan
goes on or ends. -/
inductive ScanMoves (shared : Shared) :
    Thread → Op → Thread → Prop
  | outside {current next : Thread} {op : Op}
      (before : current.scanning = none) (after : next.scanning = none)
      (keeps : op.scan shared.scan = shared.scan) :
      ScanMoves shared current op next
  | begins {current next : Thread} {purpose : Purpose}
      (free : shared.scan = none) (before : current.scanning = none)
      (after : next.scanning =
        some (.next ⟨purpose, shared.values, []⟩)) :
      ScanMoves shared current .lockState next
  | goesOn {current next : Thread} {scanning later : Scanning} {op : Op}
      (acts : Scanning.Acts shared scanning op later)
      (before : current.scanning = some scanning)
      (after : next.scanning = some later) :
      ScanMoves shared current op next
  | ends {current next : Thread} {stopped : Bool} {op : Op}
      {found : List RuntimeRef}
      (before : current.scanning = some (.done stopped found))
      (after : next.scanning = none)
      (frees : op.scan shared.scan = none) :
      ScanMoves shared current op next

theorem scanMoves {current next : Thread}
    (acts : Thread.Acts shared current op next) :
    ScanMoves shared current op next := by
  cases acts with
  | blockOn acts => cases acts <;> exact .outside rfl rfl rfl
  | close acts => exact .outside rfl rfl (scan_close acts)
  | release free => exact .outside rfl rfl rfl
  | build acts =>
      cases acts with
      | close acts => exact .outside rfl rfl (scan_close acts)
      | _ => exact .outside rfl rfl rfl
  | worker acts =>
      cases acts with
      | close acts => exact .outside rfl rfl (scan_close acts)
      | _ => exact .outside rfl rfl rfl
  | detach acts =>
      cases acts with
      | early free alive => exact .outside rfl rfl rfl
      | lock free stopped idle => exact .begins free rfl rfl
      | scan acts => exact .goesOn acts rfl rfl
      | live => exact .ends rfl rfl rfl
      | clear => exact .ends rfl rfl rfl
  | shutdown acts =>
      cases acts with
      | lock free => exact .begins free rfl rfl
      | cutting acts => exact .goesOn acts rfl rfl
      | turnedAway => exact .ends rfl rfl rfl
      | cutoff => exact .ends rfl rfl rfl
      | list free => exact .begins free rfl rfl
      | listing acts => exact .goesOn acts rfl rfl
      | listed => exact .ends rfl rfl rfl
      | noRuntimes => exact .ends rfl rfl rfl
      | _ => exact .outside rfl rfl rfl

/-- A scan is never without the mutex. -/
theorem op_scan_ne_none {scanning later : Scanning}
    (acts : Scanning.Acts shared scanning op later)
    (held : shared.scan ≠ none) : op.scan shared.scan ≠ none := by
  cases acts with
  | wait => exact nofun
  | look unwritten => exact nofun
  | pass passes => exact held
  | stop stops => exact held
  | finish => exact held

/-- The mutex has one owner. -/
theorem owning_state :
    program.Owning (fun shared (_ : Unit) => shared.scan ≠ none)
      (fun thread _ => thread.scanning ≠ none) where
  starts := by
    rintro _ _ (_ | _ | _ | _ | _ | _ | _) owned <;> exact owned rfl
  acquires := by
    intro world thread current op next _ _ _ acts owned
    cases scanMoves acts with
    | outside before after keeps => exact absurd after owned
    | begins free before after => exact Or.inr (not_not.mpr free)
    | goesOn acts before after => exact Or.inl (by simp [before])
    | ends before after frees => exact absurd after owned
  keeps := by
    intro world thread current op next _ _ _ acts held owned
    change (op.apply world.shared).scan ≠ none
    rw [scan_apply]
    cases scanMoves acts with
    | outside before after keeps => exact absurd after owned
    | begins free before after => exact nofun
    | goesOn acts before after =>
        exact op_scan_ne_none acts (held (by simp [before]))
    | ends before after frees => exact absurd after owned
  releases := by
    intro world thread current op next _ _ _ acts held gone
    change ¬ (op.apply world.shared).scan ≠ none at gone
    rw [scan_apply] at gone
    cases scanMoves acts with
    | outside before after keeps =>
        rw [keeps] at gone
        exact absurd held gone
    | begins free before after => exact absurd free held
    | goesOn acts before after => simp [before]
    | ends before after frees => simp [before]

/-- The mutex tells what its scan waits for. -/
theorem scan_of_scanning (reached : program.Reachable world)
    {thread : Nat} {found : Thread} {scanning : Scanning}
    (running : world.threads thread = some found)
    (scans : found.scanning = some scanning) :
    world.shared.scan = some scanning.at := by
  refine Program.thread_invariant
    (fun shared held => ∀ scanning, held.scanning = some scanning →
      shared.scan = some scanning.at)
    ?_ ?_ ?_ reached running _ scans
  · rintro world _ _ (_ | _ | _ | _ | _ | _ | _) _ ⟨⟩
  · intro world thread current op next _ _ acts held scanning scans
    change (op.apply world.shared).scan = _
    rw [scan_apply]
    cases scanMoves acts with
    | outside before after keeps =>
        rw [after] at scans
        cases scans
    | begins free before after =>
        rw [after] at scans
        cases scans
        rfl
    | goesOn acts before after =>
        rw [after] at scans
        cases scans
        exact scan_scanning acts (held _ before)
    | ends before after frees =>
        rw [after] at scans
        cases scans
  · intro world thread bystander current op next other reached different
      running bystanding acts held scanning scans
    have mine : world.shared.scan = some scanning.at := held _ scans
    have alone : current.scanning = none := by
      by_contra owned
      exact (owning_state.ownedOnce reached).2 _ _ _ _ () different
        bystanding running (by simp [scans]) owned
    change (op.apply world.shared).scan = _
    rw [scan_apply]
    cases scanMoves acts with
    | outside before after keeps => exact keeps.trans mine
    | begins free before after =>
        rw [free] at mine
        cases mine
    | goesOn acts before after =>
        rw [alone] at before
        cases before
    | ends before after frees =>
        rw [alone] at before
        cases before

/-- When the mutex names a runtime, a scan waits for it. -/
theorem keeping_scan :
    program.Keeping
      (fun shared runtime => shared.scan = some (some runtime))
      (fun thread runtime => ∃ scan,
        thread.scanning = some (.waiting scan runtime)) where
  absent := by
    rintro _ runtime rfl ⟨⟩
  introduces := by
    intro world thread current op next runtime reached running acts
      before found
    change (op.apply world.shared).scan = _ at found
    rw [scan_apply] at found
    cases scanMoves acts with
    | outside _ _ keeps => exact absurd (keeps ▸ found) before
    | begins free _ _ => cases found
    | goesOn acts _ after =>
        cases acts with
        | wait =>
            cases found
            exact ⟨_, after⟩
        | look unwritten => cases found
        | pass passes => exact absurd found before
        | stop stops => exact absurd found before
        | finish => exact absurd found before
    | ends _ _ frees =>
        rw [frees] at found
        cases found
  retains := by
    rintro world thread current op next runtime reached running acts
      ⟨scan, scans⟩ found
    change (op.apply world.shared).scan = _ at found
    rw [scan_apply] at found
    cases scanMoves acts with
    | outside before _ _ =>
        rw [before] at scans
        cases scans
    | begins _ before _ =>
        rw [before] at scans
        cases scans
    | goesOn acts before after =>
        rw [before] at scans
        cases scans
        cases acts
        cases found
    | ends before _ _ =>
        rw [before] at scans
        cases scans

/-! ## Waiting writers -/

/-- One for a thread that waits to write the kind. -/
def Close.queues (call : Close) (runtime other : RuntimeRef) : Nat :=
  if call = .queued ∧ runtime = other then 1 else 0

def Thread.queues (thread : Thread) (runtime : RuntimeRef) : Nat :=
  match thread with
  | .close _ closed call => call.queues closed runtime
  | .build _ (.closing closed call) => call.queues closed runtime
  | .worker _ (.closing _ _ _ closed call) => call.queues closed runtime
  | _ => 0

/-- The steps that change how many writers wait. -/
def Op.queued (op : Op) (count : RuntimeRef → Nat) : RuntimeRef → Nat :=
  match op with
  | .queue runtime => increment count runtime
  | .write runtime => decrement count runtime
  | _ => count

theorem queued_apply :
    (op.apply shared).queued = op.queued shared.queued := by
  cases op with
  | beginActivity =>
      simp only [Op.apply]
      split <;> rfl
  | register runtime =>
      simp only [Op.apply]
      split <;> rfl
  | _ => rfl

theorem queued_close {thread : Nat} {runtime other : RuntimeRef}
    {call next : Close} {count : RuntimeRef → Nat}
    (acts : Close.Acts shared thread runtime call op next)
    (counted : call.queues runtime other ≤ count other) :
    op.queued count other + call.queues runtime other =
      count other + next.queues runtime other := by
  cases acts with
  | queue =>
      simp only [Op.queued, increment, Close.queues, Function.update_apply]
      grind -ring -linarith
  | write unwritten unread =>
      simp only [Op.queued, decrement, Close.queues, Function.update_apply]
        at counted ⊢
      grind -ring -linarith
  | close => rfl

theorem queued_scanning {scanning next : Scanning}
    {count : RuntimeRef → Nat}
    (acts : Scanning.Acts shared scanning op next) :
    op.queued count = count := by
  cases acts <;> rfl

theorem counting_queued (runtime : RuntimeRef) :
    program.Counting (fun shared => shared.queued runtime)
      (fun thread => thread.queues runtime) where
  initially := by
    rintro _ rfl
    rfl
  starts := by
    rintro _ (_ | _ | _ | _ | _ | _ | _) <;> rfl
  moves := by
    intro world thread current op next _ _ acts counted
    change (op.apply world.shared).queued runtime + _ = _
    rw [queued_apply]
    cases acts with
    | blockOn acts => cases acts <;> rfl
    | close acts => exact queued_close acts counted
    | release free => rfl
    | build acts =>
        cases acts with
        | close acts => exact queued_close acts counted
        | _ => rfl
    | worker acts =>
        cases acts with
        | close acts => exact queued_close acts counted
        | _ => rfl
    | detach acts =>
        cases acts with
        | scan acts => exact congrFun (queued_scanning acts) runtime
        | _ => rfl
    | shutdown acts =>
        cases acts with
        | cutting acts => exact congrFun (queued_scanning acts) runtime
        | listing acts => exact congrFun (queued_scanning acts) runtime
        | _ => rfl

/-- The call has the kind and has still to take the mutex. -/
def BlockOn.inside : BlockOn → Bool
  | .entered => true
  | .polling => true
  | .dropping => true
  | _ => false

def Thread.enters (thread : Thread) (runtime : RuntimeRef) : Nat :=
  match thread with
  | .blockOn _ entered call =>
      if call.inside = true ∧ entered = runtime then 1 else 0
  | _ => 0

/-- The steps that change how many calls are inside. -/
def Op.entered (op : Op) (count : RuntimeRef → Nat) : RuntimeRef → Nat :=
  match op with
  | .enter runtime true => increment count runtime
  | .finish runtime => decrement count runtime
  | .unwind runtime => decrement count runtime
  | _ => count

theorem entered_apply :
    (op.apply shared).entered = op.entered shared.entered := by
  cases op with
  | beginActivity =>
      simp only [Op.apply]
      split <;> rfl
  | register runtime =>
      simp only [Op.apply]
      split <;> rfl
  | enter runtime runs => cases runs <;> rfl
  | _ => rfl

theorem entered_close {thread : Nat} {runtime : RuntimeRef}
    {call next : Close} {count : RuntimeRef → Nat}
    (acts : Close.Acts shared thread runtime call op next) :
    op.entered count = count := by
  cases acts <;> rfl

theorem entered_scanning {scanning next : Scanning}
    {count : RuntimeRef → Nat}
    (acts : Scanning.Acts shared scanning op next) :
    op.entered count = count := by
  cases acts <;> rfl

theorem entered_blockOn {thread : Nat} {entered runtime : RuntimeRef}
    {call next : BlockOn} {count : RuntimeRef → Nat}
    (acts : BlockOn.Acts shared thread entered call op next)
    (counted : (Thread.blockOn thread entered call).enters runtime ≤
      count runtime) :
    op.entered count runtime +
        (Thread.blockOn thread entered call).enters runtime =
      count runtime +
        (Thread.blockOn thread entered next).enters runtime := by
  cases acts with
  | enter unwritten runs =>
      simp only [Op.entered, increment, Thread.enters, BlockOn.inside,
        Function.update_apply]
      grind -ring -linarith
  | dropped free =>
      simp only [Op.entered, decrement, Thread.enters, BlockOn.inside,
        Function.update_apply] at counted ⊢
      grind -ring -linarith
  | panicked =>
      simp only [Op.entered, decrement, Thread.enters, BlockOn.inside,
        Function.update_apply] at counted ⊢
      grind -ring -linarith
  | _ => rfl

theorem counting_entered (runtime : RuntimeRef) :
    program.Counting (fun shared => shared.entered runtime)
      (fun thread => thread.enters runtime) where
  initially := by
    rintro _ rfl
    rfl
  starts := by
    rintro _ (_ | _ | _ | _ | _ | _ | _) <;> rfl
  moves := by
    intro world thread current op next _ _ acts counted
    change (op.apply world.shared).entered runtime + _ = _
    rw [entered_apply]
    cases acts with
    | blockOn acts => exact entered_blockOn acts counted
    | close acts => exact congrFun (entered_close acts) runtime
    | release free => rfl
    | build acts =>
        cases acts with
        | close acts => exact congrFun (entered_close acts) runtime
        | _ => rfl
    | worker acts =>
        cases acts with
        | close acts => exact congrFun (entered_close acts) runtime
        | _ => rfl
    | detach acts =>
        cases acts with
        | scan acts => exact congrFun (entered_scanning acts) runtime
        | _ => rfl
    | shutdown acts =>
        cases acts with
        | cutting acts => exact congrFun (entered_scanning acts) runtime
        | listing acts => exact congrFun (entered_scanning acts) runtime
        | _ => rfl

end Telekio.Locks
