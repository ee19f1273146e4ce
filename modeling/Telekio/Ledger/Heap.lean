import Mathlib.Data.List.Perm.Basic
import Mathlib.Data.List.Nodup

/-!
# Owned cells

A heap of cells, each owned by exactly one part of a program, and programs
that allocate, read and free them. A program that frees a cell that is not
there, or that is freed in the wrong way, is stuck. `Spec` says what a program
owns before and after, whatever else is in the heap.
-/

namespace Telekio.Ledger

/-- Cells with their addresses, which are used once. -/
structure Heap (κ : Type) where
  cells : List (Nat × κ)
  next : Nat
  fresh : ∀ cell ∈ cells, cell.1 < next
  distinct : (cells.map Prod.fst).Nodup

/-- A program unwinds with a payload, or it is stuck. -/
inductive Stop (π : Type) where
  | unwind (payload : π)
  | stuck

abbrev Program (π κ α : Type) :=
  EStateM (Stop π) (Heap κ) α

variable {π κ α β : Type}

namespace Heap

variable (heap : Heap κ)

def empty : Heap κ where
  cells := []
  next := 0
  fresh := nofun
  distinct := List.nodup_nil

def add (value : κ) : Heap κ where
  cells := (heap.next, value) :: heap.cells
  next := heap.next + 1
  fresh := by
    intro cell member
    rcases List.mem_cons.mp member with rfl | old
    · exact Nat.lt_succ_self _
    · exact Nat.lt_succ_of_lt (heap.fresh cell old)
  distinct := by
    refine List.nodup_cons.mpr ⟨?_, heap.distinct⟩
    intro member
    obtain ⟨cell, old, same⟩ := List.mem_map.mp member
    have less := heap.fresh cell old
    omega

def at? (address : Nat) : Option κ :=
  heap.cells.lookup address

def drop (address : Nat) : Heap κ where
  cells := heap.cells.filter fun cell => cell.1 ≠ address
  next := heap.next
  fresh := fun cell member => heap.fresh cell (List.mem_filter.mp member).1
  distinct := heap.distinct.sublist (List.filter_sublist.map _)

end Heap

def alloc (value : κ) : Program π κ Nat :=
  fun heap => .ok heap.next (heap.add value)

def read (address : Nat) : Program π κ κ :=
  fun heap =>
    match heap.at? address with
    | some value => .ok value heap
    | none => .error .stuck heap

/-- A cell is freed in a way that has to fit it. -/
def free (address : Nat) (fits : κ → Bool) : Program π κ Unit :=
  fun heap =>
    match heap.at? address with
    | some value =>
        if fits value then .ok () (heap.drop address) else .error .stuck heap
    | none => .error .stuck heap

def unwind (payload : π) : Program π κ α :=
  throw (.unwind payload)

/-- `catch_unwind`. -/
def catchUnwind (program : Program π κ α) : Program π κ (Except π α) :=
  fun heap =>
    match program heap with
    | .ok value after => .ok (.ok value) after
    | .error (.unwind payload) after => .ok (.error payload) after
    | .error .stuck after => .error .stuck after

/-- A function that must not unwind. -/
def nounwind (program : Program π κ α) : Program π κ α :=
  fun heap =>
    match program heap with
    | .ok value after => .ok value after
    | .error _ after => .error .stuck after

/-- What a program owns, and what is left of that when it returns or unwinds;
it is never stuck, and leaves alone what others own. -/
def Spec (owned : List (Nat × κ)) (program : Program π κ α)
    (post : Except π α → List (Nat × κ) → Prop) : Prop :=
  ∀ heap others, heap.cells.Perm (owned ++ others) →
    match program heap with
    | .ok value after => ∃ left, post (.ok value) left ∧
        after.cells.Perm (left ++ others)
    | .error (.unwind payload) after => ∃ left, post (.error payload) left ∧
        after.cells.Perm (left ++ others)
    | .error .stuck _ => False

section Lookup

variable {heap : Heap κ} {address : Nat} {value : κ}
variable {owned others : List (Nat × κ)}

theorem lookup_of_mem {cells : List (Nat × κ)}
    (distinct : (cells.map Prod.fst).Nodup)
    (member : (address, value) ∈ cells) :
    cells.lookup address = some value := by
  induction cells with
  | nil => cases member
  | cons cell rest ih =>
      obtain ⟨first, content⟩ := cell
      obtain ⟨apart, further⟩ := List.nodup_cons.mp distinct
      rcases List.mem_cons.mp member with same | later
      · cases same
        simp
      · have different : address ≠ first := by
          rintro rfl
          exact apart (List.mem_map.mpr ⟨_, later, rfl⟩)
        rw [List.lookup_cons, beq_false_of_ne different]
        exact ih further later

theorem at?_of_perm
    (perm : heap.cells.Perm ((address, value) :: owned ++ others)) :
    heap.at? address = some value :=
  lookup_of_mem heap.distinct (perm.mem_iff.mpr List.mem_cons_self)

theorem drop_of_perm
    (perm : heap.cells.Perm ((address, value) :: owned ++ others)) :
    (heap.drop address).cells.Perm (owned ++ others) := by
  have filtered := perm.filter fun cell => decide (cell.1 ≠ address)
  have apart := (perm.map Prod.fst).nodup_iff.mp heap.distinct
  rw [List.cons_append, List.map_cons, List.nodup_cons] at apart
  have whole : (owned ++ others).filter
      (fun cell => decide (cell.1 ≠ address)) = owned ++ others := by
    refine List.filter_eq_self.mpr fun cell member => ?_
    rw [decide_eq_true_eq]
    rintro same
    exact apart.1 (List.mem_map.mpr ⟨cell, member, same⟩)
  rw [List.cons_append, List.filter_cons_of_neg (by simp), whole]
    at filtered
  exact filtered

end Lookup

namespace Spec

variable {owned : List (Nat × κ)} {program : Program π κ α}
variable {post : Except π α → List (Nat × κ) → Prop}
variable {later : Except π β → List (Nat × κ) → Prop}

theorem consequence {weaker : Except π α → List (Nat × κ) → Prop}
    (spec : Spec owned program post)
    (weaken : ∀ result left, post result left → weaker result left) :
    Spec owned program weaker := by
  intro heap others perm
  have ran := spec heap others perm
  revert ran
  cases program heap with
  | ok value after =>
      rintro ⟨left, holds, rest⟩
      exact ⟨left, weaken _ _ holds, rest⟩
  | error stop after =>
      cases stop with
      | unwind payload =>
          rintro ⟨left, holds, rest⟩
          exact ⟨left, weaken _ _ holds, rest⟩
      | stuck => exact id

theorem pure {value : α} (holds : post (.ok value) owned) :
    Spec owned (Pure.pure value : Program π κ α) post :=
  fun _ _ perm => ⟨owned, holds, perm⟩

theorem unwind {payload : π} (holds : post (.error payload) owned) :
    Spec owned (Ledger.unwind payload : Program π κ α) post :=
  fun _ _ perm => ⟨owned, holds, perm⟩

/-- What the first part leaves, the second one owns. -/
theorem bind {next : α → Program π κ β} (first : Spec owned program post)
    (second : ∀ value left, post (.ok value) left →
      Spec left (next value) later)
    (unwinds : ∀ payload left, post (.error payload) left →
      later (.error payload) left) :
    Spec owned (program >>= next) later := by
  intro heap others perm
  have ran := first heap others perm
  simp only [Bind.bind, EStateM.bind]
  revert ran
  cases program heap with
  | ok value after =>
      rintro ⟨left, holds, rest⟩
      exact second value left holds after others rest
  | error stop after =>
      cases stop with
      | unwind payload =>
          rintro ⟨left, holds, rest⟩
          exact ⟨left, unwinds payload left holds, rest⟩
      | stuck => exact id

theorem catchUnwind (spec : Spec owned program post) :
    Spec owned (Ledger.catchUnwind program) fun result left =>
      ∃ inner, result = .ok inner ∧ post inner left := by
  intro heap others perm
  have ran := spec heap others perm
  unfold Ledger.catchUnwind
  revert ran
  cases program heap with
  | ok value after =>
      rintro ⟨left, holds, rest⟩
      exact ⟨left, ⟨_, rfl, holds⟩, rest⟩
  | error stop after =>
      cases stop with
      | unwind payload =>
          rintro ⟨left, holds, rest⟩
          exact ⟨left, ⟨_, rfl, holds⟩, rest⟩
      | stuck => exact id

/-- A program that only returns may be a function that must not unwind. -/
theorem nounwind {returns : α → List (Nat × κ) → Prop}
    (spec : Spec owned program fun result left =>
      ∃ value, result = .ok value ∧ returns value left) :
    Spec owned (Ledger.nounwind program) fun result left =>
      ∃ value, result = .ok value ∧ returns value left := by
  intro heap others perm
  have ran := spec heap others perm
  unfold Ledger.nounwind
  revert ran
  cases program heap with
  | ok value after => exact id
  | error stop after =>
      cases stop with
      | unwind payload =>
          rintro ⟨left, ⟨_, same, -⟩, -⟩
          cases same
      | stuck => exact id

theorem alloc {value : κ} :
    Spec owned (Ledger.alloc value : Program π κ Nat) fun result left =>
      ∃ address, result = .ok address ∧ left = (address, value) :: owned :=
  fun heap _ perm => ⟨_, ⟨heap.next, rfl, rfl⟩, perm.cons _⟩

theorem read {address : Nat} {value : κ} :
    Spec ((address, value) :: owned)
      (Ledger.read address : Program π κ κ) fun result left =>
        result = .ok value ∧ left = (address, value) :: owned := by
  intro heap others perm
  simp only [Ledger.read, at?_of_perm perm]
  exact ⟨_, ⟨trivial, rfl⟩, perm⟩

theorem free {address : Nat} {value : κ} {fits : κ → Bool}
    (fit : fits value = true) :
    Spec ((address, value) :: owned)
      (Ledger.free address fits : Program π κ Unit) fun result left =>
        result = .ok () ∧ left = owned := by
  intro heap others perm
  simp only [Ledger.free, at?_of_perm perm, fit, if_true]
  exact ⟨_, ⟨trivial, rfl⟩, drop_of_perm perm⟩

end Spec

end Telekio.Ledger
