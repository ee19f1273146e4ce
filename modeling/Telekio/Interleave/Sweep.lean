import Telekio.Interleave.Program

/-!
# Sweeps

A thread closes an admission, takes a snapshot of what is registered, and
works off the snapshot without a lock, while other threads go on. When nothing
that is not settled can register after the close, everything registered is
settled or still in the list.
-/

namespace Telekio.Interleave.Program

universe u v w x

variable {Shared : Type u} {Local : Type v} {Op : Type w} {Item : Type x}

/-- `left` is what a thread has still to do, once it has its snapshot. -/
structure Sweep
    (program : Program Shared Local Op) (closed : Shared → Prop)
    (registered settled : Shared → Item → Prop)
    (left : Local → Option (List Item)) : Prop where
  starts : ∀ first, program.start first → left first = none
  closes : ∀ world thread current op next,
    program.Reachable world →
    world.threads thread = some current →
    program.act world.shared current op next →
    closed world.shared → closed (program.apply op world.shared)
  registers : ∀ world thread current op next item,
    program.Reachable world →
    world.threads thread = some current →
    program.act world.shared current op next →
    closed world.shared →
    registered (program.apply op world.shared) item →
    registered world.shared item ∨
      settled (program.apply op world.shared) item
  settles : ∀ world thread current op next item,
    program.Reachable world →
    world.threads thread = some current →
    program.act world.shared current op next →
    settled world.shared item →
    settled (program.apply op world.shared) item
  sweeps : ∀ world thread current op next rest,
    program.Reachable world →
    world.threads thread = some current →
    program.act world.shared current op next →
    left next = some rest →
    left current = some rest ∨
      (∃ item, left current = some (item :: rest) ∧
        settled (program.apply op world.shared) item) ∨
      (closed (program.apply op world.shared) ∧
        ∀ item, registered (program.apply op world.shared) item →
          settled (program.apply op world.shared) item ∨ item ∈ rest)

/-- The admission is closed, and what is registered is settled or left. -/
def Swept
    (closed : Shared → Prop) (registered settled : Shared → Item → Prop)
    (shared : Shared) (left : List Item) : Prop :=
  closed shared ∧
    ∀ item, registered shared item → settled shared item ∨ item ∈ left

variable {program : Program Shared Local Op} {closed : Shared → Prop}
variable {registered settled : Shared → Item → Prop}
variable {left : Local → Option (List Item)}

namespace Sweep

/-- A step of any thread keeps a list complete. -/
theorem swept_apply
    (sweep : program.Sweep closed registered settled left)
    {world : World Shared Local} {thread : Nat} {current next : Local}
    {op : Op} {list : List Item}
    (reached : program.Reachable world)
    (running : world.threads thread = some current)
    (acts : program.act world.shared current op next)
    (swept : Swept closed registered settled world.shared list) :
    Swept closed registered settled (program.apply op world.shared)
      list := by
  obtain ⟨isClosed, complete⟩ := swept
  refine ⟨sweep.closes world thread current op next reached running acts
    isClosed, ?_⟩
  intro item found
  rcases sweep.registers world thread current op next item reached
      running acts isClosed found with old | done
  · rcases complete item old with done | listed
    · exact Or.inl (sweep.settles world thread current op next item
        reached running acts done)
    · exact Or.inr listed
  · exact Or.inl done

theorem swept (sweep : program.Sweep closed registered settled left)
    {world : World Shared Local}
    (reached : program.Reachable world)
    {thread : Nat} {found : Local} {list : List Item}
    (running : world.threads thread = some found)
    (remaining : left found = some list) :
    Swept closed registered settled world.shared list := by
  refine thread_invariant
    (fun shared held => ∀ list, left held = some list →
      Swept closed registered settled shared list)
    ?_ ?_ ?_ reached running list remaining
  · intro world first _ begins list remaining
    rw [sweep.starts first begins] at remaining
    cases remaining
  · intro world thread current op next reached running acts before rest
      remaining
    rcases sweep.sweeps world thread current op next rest reached running
        acts remaining with same | ⟨item, listed, done⟩ | fresh
    · exact sweep.swept_apply reached running acts (before rest same)
    · obtain ⟨isClosed, complete⟩ :=
        sweep.swept_apply reached running acts (before _ listed)
      refine ⟨isClosed, ?_⟩
      intro other found
      rcases complete other found with settled | member
      · exact Or.inl settled
      · rcases List.mem_cons.mp member with rfl | later
        · exact Or.inl done
        · exact Or.inr later
    · exact fresh
  · intro world thread bystander current op next held reached _ running
      _ acts before list remaining
    exact sweep.swept_apply reached running acts (before list remaining)

/-- Once the list is empty, everything registered is settled. -/
theorem settled_of_done
    (sweep : program.Sweep closed registered settled left)
    {world : World Shared Local}
    (reached : program.Reachable world)
    {thread : Nat} {found : Local} {item : Item}
    (running : world.threads thread = some found)
    (done : left found = some [])
    (present : registered world.shared item) :
    settled world.shared item := by
  rcases (sweep.swept reached running done).2 item present with
    settled | member
  · exact settled
  · cases member

end Sweep

end Telekio.Interleave.Program
