import Telekio.Interleave.Program

/-!
# Locks and the threads that wait for them

Each thread holds some locks and may wait for one more. Locks are shared by
readers and exclusive to a writer; a mutex is a lock that is only written. A
waiting writer may hold up later readers, so a reader may wait for those who
hold up the writer.
-/

namespace Telekio.Interleave

universe u v w

variable {Shared : Type u} {Local : Type v} {Lock : Type w}

inductive Mode where
  | read
  | write
deriving DecidableEq, Repr

/-- What the local state of a thread tells of its locks. -/
structure Locking (Local : Type v) (Lock : Type w) where
  holds : Local → Lock → Option Mode
  wants : Local → Option (Lock × Mode)

namespace Locking

variable (locking : Locking Local Lock) (world : World Shared Local)

/-- Some thread waits to write the lock. -/
def Queued (lock : Lock) : Prop :=
  ∃ thread found, world.threads thread = some found ∧
    locking.wants found = some (lock, .write)

/-- The thread waits for a lock that the other one holds. Two readers are in
each other's way when a writer waits between them. -/
def WaitsFor (thread other : Nat) : Prop :=
  ∃ waiter holder lock wanted held,
    world.threads thread = some waiter ∧
    world.threads other = some holder ∧
    locking.wants waiter = some (lock, wanted) ∧
    locking.holds holder lock = some held ∧
    (wanted = .read → held = .read → locking.Queued world lock)

/-- Threads from this one on wait for each other and at last for it. -/
def OnCycle (thread : Nat) : Prop :=
  Relation.TransGen (locking.WaitsFor world) thread thread

/-- Some threads wait for each other in a cycle. -/
def Deadlocked : Prop :=
  ∃ thread, locking.OnCycle world thread

variable {locking world}

theorem deadlocked_of_waitsFor {thread other : Nat}
    (waits : locking.WaitsFor world thread other)
    (back : locking.WaitsFor world other thread) :
    locking.Deadlocked world :=
  ⟨thread, .head waits (.single back)⟩

/-- The next thread of a cycle is on a cycle. -/
theorem OnCycle.exists_next {thread : Nat}
    (cycle : locking.OnCycle world thread) :
    ∃ next, locking.WaitsFor world thread next ∧
      locking.OnCycle world next := by
  obtain ⟨next, waits, rest⟩ := Relation.TransGen.head'_iff.mp cycle
  exact ⟨next, waits, .tail' rest waits⟩

/-- A thread of a cycle wants a lock. -/
theorem OnCycle.exists_wants {thread : Nat} {found : Local}
    (cycle : locking.OnCycle world thread)
    (running : world.threads thread = some found) :
    ∃ lock mode, locking.wants found = some (lock, mode) := by
  obtain ⟨next, ⟨waiter, holder, lock, mode, held, same, _, wants, _⟩, _⟩ :=
    cycle.exists_next
  rw [running] at same
  cases same
  exact ⟨lock, mode, wants⟩

/-- A thread of a cycle holds a lock. -/
theorem OnCycle.exists_holds {thread : Nat} {found : Local}
    (cycle : locking.OnCycle world thread)
    (running : world.threads thread = some found) :
    ∃ lock mode, locking.holds found lock = some mode := by
  obtain ⟨before, _, waiter, holder, lock, mode, held, _, same, _, holds, _⟩ :=
    Relation.TransGen.tail'_iff.mp cycle
  rw [running] at same
  cases same
  exact ⟨lock, held, holds⟩

end Locking

end Telekio.Interleave
