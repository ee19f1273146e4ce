import Mathlib.Data.List.Basic

/-!
# Programs with a journal

Programs over a state that may stop with an error, and that write down what
they do. `Adds` says of every run how what it writes down and how it ends fit
together; `Keeps` says that a condition on the state stays.
-/

namespace Telekio.Journal

/-- A state, with what was written down so far. -/
structure Record (σ κ : Type) where
  state : σ
  entries : List κ

abbrev Program (ε σ κ : Type) :=
  EStateM ε (Record σ κ)

variable {ε σ κ α β : Type}

/-- A run from a record: how it ends, and the record then. -/
def run (program : Program ε σ κ α) (start : Record σ κ) :
    Except ε α × Record σ κ :=
  match program start with
  | .ok value last => (.ok value, last)
  | .error error last => (.error error, last)

/-- A step that is written down with its result. -/
def perform (step : σ → α × σ) (entry : α → κ) : Program ε σ κ α :=
  fun start =>
    let done := step start.state
    .ok done.1 ⟨done.2, start.entries ++ [entry done.1]⟩

/-- Every run adds entries that fit how it ends. -/
def Adds (program : Program ε σ κ α)
    (fits : List κ → Except ε α → Prop) : Prop :=
  ∀ start, ∃ added, (run program start).2.entries = start.entries ++ added ∧
    fits added (run program start).1

/-- However a run ends, the condition on the state stays. -/
def Keeps (condition : σ → Prop) (program : Program ε σ κ α) : Prop :=
  ∀ start, condition start.state →
    condition (run program start).2.state

theorem run_bind {program : Program ε σ κ α}
    {next : α → Program ε σ κ β} {start : Record σ κ} :
    run (program >>= next) start =
      match run program start with
      | (.ok value, last) => run (next value) last
      | (.error error, last) => (.error error, last) := by
  simp only [run, Bind.bind, EStateM.bind]
  cases program start with
  | ok value last => rfl
  | error error last => rfl

namespace Adds

variable {fits : List κ → Except ε α → Prop}
variable {later : List κ → Except ε β → Prop}

theorem consequence {program : Program ε σ κ α}
    {weaker : List κ → Except ε α → Prop} (adds : Adds program fits)
    (weaken : ∀ added result, fits added result → weaker added result) :
    Adds program weaker := by
  intro start
  obtain ⟨added, entries, holds⟩ := adds start
  exact ⟨added, entries, weaken _ _ holds⟩

theorem pure {value : α} (holds : fits [] (.ok value)) :
    Adds (Pure.pure value : Program ε σ κ α) fits :=
  fun _ => ⟨[], (List.append_nil _).symm, holds⟩

theorem throw {error : ε} (holds : fits [] (.error error)) :
    Adds (throw error : Program ε σ κ α) fits :=
  fun _ => ⟨[], (List.append_nil _).symm, holds⟩

/-- A step adds one entry, and its result is the one that is written down. -/
theorem perform {step : σ → α × σ} {entry : α → κ} :
    Adds (perform step entry : Program ε σ κ α) fun added result =>
      ∃ value, added = [entry value] ∧ result = .ok value :=
  fun start => ⟨[entry (step start.state).1], rfl, _, rfl, rfl⟩

/-- What the second part adds comes after what the first one adds, and may
depend on it. -/
theorem andThen {program : Program ε σ κ α} {next : α → Program ε σ κ β}
    (first : Adds program fits)
    (second : ∀ value earlier, fits earlier (.ok value) →
      Adds (next value) fun added result => later (earlier ++ added) result)
    (stops : ∀ earlier error, fits earlier (.error error) →
      later earlier (.error error)) :
    Adds (program >>= next) later := by
  intro start
  obtain ⟨earlier, entries, holds⟩ := first start
  rw [run_bind]
  cases ended : run program start with
  | mk result middle =>
      rw [ended] at entries holds
      cases result with
      | ok value =>
          obtain ⟨added, more, fitting⟩ := second value earlier holds middle
          refine ⟨earlier ++ added, ?_, fitting⟩
          rw [more, entries, List.append_assoc]
      | error error =>
          exact ⟨earlier, entries, stops _ _ holds⟩

theorem bind {program : Program ε σ κ α} {next : α → Program ε σ κ β}
    (first : Adds program fits)
    (second : ∀ value, Adds (next value) fun added result =>
      ∀ earlier, fits earlier (.ok value) → later (earlier ++ added) result)
    (stops : ∀ earlier error, fits earlier (.error error) →
      later earlier (.error error)) :
    Adds (program >>= next) later :=
  first.andThen (fun value earlier holds =>
    (second value).consequence fun _ _ fitting => fitting earlier holds) stops

/-- Two facts about what is added hold together. -/
theorem and {program : Program ε σ κ α}
    {other : List κ → Except ε α → Prop} (adds : Adds program fits)
    (more : Adds program other) :
    Adds program fun added result => fits added result ∧
      other added result := by
  intro start
  obtain ⟨added, entries, holds⟩ := adds start
  obtain ⟨again, same, holdsToo⟩ := more start
  rw [entries] at same
  obtain rfl := List.append_cancel_left same
  exact ⟨added, entries, holds, holdsToo⟩

end Adds

namespace Keeps

variable {condition : σ → Prop}

theorem pure {value : α} :
    Keeps condition (Pure.pure value : Program ε σ κ α) :=
  fun _ => id

theorem throw {error : ε} :
    Keeps condition (throw error : Program ε σ κ α) :=
  fun _ => id

theorem perform {step : σ → α × σ} {entry : α → κ}
    (stays : ∀ state, condition state → condition (step state).2) :
    Keeps condition (perform step entry : Program ε σ κ α) :=
  fun start => stays start.state

theorem bind {program : Program ε σ κ α} {next : α → Program ε σ κ β}
    (first : Keeps condition program)
    (second : ∀ value, Keeps condition (next value)) :
    Keeps condition (program >>= next) := by
  intro start holds
  have middle := first start holds
  rw [run_bind]
  cases ended : run program start with
  | mk result record =>
      rw [ended] at middle
      cases result with
      | ok value => exact second value record middle
      | error error => exact middle

theorem ite {choice : Prop} [Decidable choice]
    {first second : Program ε σ κ α} (yes : Keeps condition first)
    (no : Keeps condition second) :
    Keeps condition (if choice then first else second) := by
  split
  · exact yes
  · exact no

end Keeps

end Telekio.Journal
