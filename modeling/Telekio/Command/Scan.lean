import Mathlib.Data.List.Basic

/-!
# Items that take the next one

A list in which some items take the next one as their value, read from the
start: what is a value is no item of its own.
-/

namespace Telekio.Scan

variable {α : Type*} (takes drops : α → Bool)

/-- The item at an index is taken by the one before it. -/
def isValue (items : List α) : Nat → Bool
  | 0 => false
  | index + 1 => (items[index]?).any takes && !isValue items index

/-- The last item takes one that is not there. -/
def isPending (items : List α) : Bool :=
  isValue takes items items.length

/-- The items that are neither values nor dropped. -/
def kept (items : List α) : List α :=
  (List.range items.length).filterMap fun index =>
    (items[index]?).filter fun item =>
      !isValue takes items index && !drops item

variable {takes drops} {item value : α} {items rest : List α} {index : Nat}

theorem isValue_cons (free : takes item = false) :
    isValue takes (item :: items) (index + 1) = isValue takes items index := by
  induction index with
  | zero => simp [isValue, free]
  | succ index ih =>
      rw [isValue, ih, isValue, List.getElem?_cons_succ]

theorem isValue_cons_cons (taking : takes item = true) :
    isValue takes (item :: value :: items) (index + 2) =
      isValue takes items index := by
  induction index with
  | zero => simp [isValue, taking]
  | succ index ih =>
      rw [isValue, ih, isValue, List.getElem?_cons_succ,
        List.getElem?_cons_succ]

/-- A list is read item by item, or item and value. -/
@[elab_as_elim]
theorem scan_induction {motive : List α → Prop} (takes : α → Bool)
    (nil : motive [])
    (free : ∀ item rest, takes item = false → motive rest →
      motive (item :: rest))
    (last : ∀ item, takes item = true → motive [item])
    (pair : ∀ item value rest, takes item = true → motive rest →
      motive (item :: value :: rest)) :
    ∀ items, motive items
  | [] => nil
  | [item] =>
      if taking : takes item = true then last item taking
      else free item [] (by simpa using taking) nil
  | item :: value :: rest =>
      if taking : takes item = true then
        pair item value rest taking
          (scan_induction takes nil free last pair rest)
      else
        free item (value :: rest) (by simpa using taking)
          (scan_induction takes nil free last pair (value :: rest))

theorem isPending_cons (free : takes item = false) :
    isPending takes (item :: items) = isPending takes items :=
  isValue_cons free

theorem isPending_singleton (taking : takes item = true) :
    isPending takes [item] = true := by
  simp [isPending, isValue, taking]

theorem isPending_cons_cons (taking : takes item = true) :
    isPending takes (item :: value :: items) = isPending takes items :=
  isValue_cons_cons taking

theorem isPending_of_free (free : ∀ item ∈ items, takes item = false) :
    isPending takes items = false := by
  induction items with
  | nil => rfl
  | cons item rest ih =>
      rw [isPending_cons (free item List.mem_cons_self)]
      exact ih fun other member => free other (List.mem_cons_of_mem _ member)

/-- A list that is pending ends with an item that takes one, and is not
pending before that. -/
theorem exists_of_isPending (pending : isPending takes items = true) :
    ∃ before last, items = before ++ [last] ∧ takes last = true ∧
      isPending takes before = false := by
  induction items using scan_induction takes with
  | nil => cases pending
  | free item rest free ih =>
      rw [isPending_cons free] at pending
      obtain ⟨before, last, rfl, taking, done⟩ := ih pending
      exact ⟨item :: before, last, rfl, taking, (isPending_cons free).trans
        done⟩
  | last item taking => exact ⟨[], item, rfl, taking, rfl⟩
  | pair item value rest taking ih =>
      rw [isPending_cons_cons taking] at pending
      obtain ⟨before, last, rfl, takingLast, done⟩ := ih pending
      exact ⟨item :: value :: before, last, rfl, takingLast,
        (isPending_cons_cons taking).trans done⟩

theorem kept_cons (free : takes item = false) :
    kept takes drops (item :: items) =
      if drops item then kept takes drops items
      else item :: kept takes drops items := by
  unfold kept
  rw [List.length_cons, List.range_succ_eq_map, List.filterMap_cons,
    List.filterMap_map]
  have shifted : ((fun index => ((item :: items)[index]?).filter fun other =>
      !isValue takes (item :: items) index && !drops other) ∘ Nat.succ) =
      fun index => (items[index]?).filter fun other =>
        !isValue takes items index && !drops other := by
    funext index
    simp only [Function.comp_apply, Nat.succ_eq_add_one,
      List.getElem?_cons_succ, isValue_cons free]
  rw [shifted]
  cases dropped : drops item <;> simp [isValue, dropped, Option.filter]

theorem kept_singleton (dropped : drops item = true) :
    kept takes drops [item] = [] := by
  simp [kept, Option.filter, dropped]

theorem kept_cons_cons (taking : takes item = true)
    (dropped : drops item = true) :
    kept takes drops (item :: value :: items) = kept takes drops items := by
  unfold kept
  rw [List.length_cons, List.length_cons, List.range_succ_eq_map,
    List.filterMap_cons, List.filterMap_map, List.range_succ_eq_map,
    List.filterMap_cons, List.filterMap_map]
  have shifted : (((fun index => ((item :: value :: items)[index]?).filter
      fun other => !isValue takes (item :: value :: items) index &&
        !drops other) ∘ Nat.succ) ∘ Nat.succ) =
      fun index => (items[index]?).filter fun other =>
        !isValue takes items index && !drops other := by
    funext index
    simp only [Function.comp_apply, Nat.succ_eq_add_one,
      List.getElem?_cons_succ, isValue_cons_cons taking]
  rw [shifted]
  simp [isValue, dropped, taking, Option.filter]

theorem mem_kept (member : item ∈ kept takes drops items) :
    item ∈ items ∧ drops item = false := by
  obtain ⟨index, -, found⟩ := List.mem_filterMap.mp member
  obtain ⟨there, free⟩ := Option.filter_eq_some_iff.mp found
  rw [Bool.and_eq_true, Bool.not_eq_true', Bool.not_eq_true'] at free
  exact ⟨List.mem_of_getElem? there, free.2⟩

section Uniform

variable (uniform : ∀ item, takes item = true → drops item = true)
include uniform

/-- Items that take the next one are dropped themselves. -/
theorem kept_append {first second : List α}
    (done : isPending takes first = false) :
    kept takes drops (first ++ second) =
      kept takes drops first ++ kept takes drops second := by
  induction first using scan_induction takes with
  | nil => rfl
  | free item rest free ih =>
      rw [isPending_cons free] at done
      rw [List.cons_append, kept_cons free, kept_cons free, ih done]
      split <;> rfl
  | last item taking =>
      rw [isPending_singleton taking] at done
      cases done
  | pair item value rest taking ih =>
      rw [isPending_cons_cons taking] at done
      rw [List.cons_append, List.cons_append,
        kept_cons_cons taking (uniform item taking),
        kept_cons_cons taking (uniform item taking), ih done]

/-- Items that are not dropped are all kept. -/
theorem kept_of_undropped (undropped : ∀ item ∈ items, drops item = false) :
    kept takes drops items = items := by
  induction items with
  | nil => rfl
  | cons item rest ih =>
      have stays := undropped item List.mem_cons_self
      have free : takes item = false := by
        rw [Bool.eq_false_iff]
        intro taking
        rw [uniform item taking] at stays
        cases stays
      rw [kept_cons free, if_neg (by simp [stays]), ih]
      exact fun other member => undropped other (List.mem_cons_of_mem _ member)

end Uniform

end Telekio.Scan
