import Mathlib.Logic.Function.Basic

/-!
# Linked lists on a heap

A pointer that is not null leads to a cell with a value and the next pointer.
A list is linked from a pointer when following it visits the cells of the
list, in order, and comes to an end.
-/

namespace Telekio.Nesting

universe u

variable {α : Type u}

structure Cell (α : Type u) where
  next : Option Nat
  value : α
deriving DecidableEq, Repr

/-- The cells that are alive, by their addresses. -/
abbrev Heap (α : Type u) := Nat → Option (Cell α)

/-- The addresses and the values that a pointer leads to. -/
inductive Linked (heap : Heap α) : Option Nat → List (Nat × α) → Prop
  | nil : Linked heap none []
  | cons {address : Nat} {cell : Cell α} {rest : List (Nat × α)}
      (found : heap address = some cell)
      (linked : Linked heap cell.next rest) :
      Linked heap (some address) ((address, cell.value) :: rest)

/-- Follow a pointer until a value passes, through `fuel` cells at most. A
dangling pointer is no answer. -/
def anyFrom (heap : Heap α) (passes : α → Bool) :
    Nat → Option Nat → Option Bool
  | _, none => some false
  | 0, some _ => none
  | fuel + 1, some address =>
      (heap address).bind fun cell =>
        if passes cell.value then some true
        else anyFrom heap passes fuel cell.next

namespace Linked

variable {heap : Heap α} {start : Option Nat} {cells : List (Nat × α)}

theorem eq_nil (linked : Linked heap none cells) : cells = [] := by
  cases linked
  rfl

/-- A new cell is not in any list. -/
theorem update (linked : Linked heap start cells) {address : Nat}
    (fresh : heap address = none) (cell : Cell α) :
    Linked (Function.update heap address (some cell)) start cells := by
  induction linked with
  | nil => exact .nil
  | @cons other found rest known linked inductionHypothesis =>
      have different : other ≠ address := by
        rintro rfl
        rw [fresh] at known
        cases known
      exact .cons (by rwa [Function.update_of_ne different])
        inductionHypothesis

/-- A new cell in front of a list. -/
theorem push (linked : Linked heap start cells) {address : Nat}
    (fresh : heap address = none) (value : α) :
    Linked (Function.update heap address (some ⟨start, value⟩))
      (some address) ((address, value) :: cells) :=
  @Linked.cons _ _ _ ⟨start, value⟩ _ (Function.update_self _ _ _)
    (linked.update fresh _)

/-- With fuel for all cells the walk finds a value that passes. -/
theorem anyFrom_eq (linked : Linked heap start cells)
    (passes : α → Bool) {fuel : Nat} (enough : cells.length ≤ fuel) :
    anyFrom heap passes fuel start =
      some (cells.any fun cell => passes cell.2) := by
  induction linked generalizing fuel with
  | nil => rw [anyFrom, List.any_nil]
  | @cons address cell rest found linked inductionHypothesis =>
      cases fuel with
      | zero => cases enough
      | succ fuel =>
          have later := inductionHypothesis (Nat.le_of_succ_le_succ enough)
          rw [anyFrom, found, Option.bind_some, later, List.any_cons]
          cases passes cell.value <;> rfl

end Linked

end Telekio.Nesting
