import Mathlib.Data.List.Basic
import Mathlib.Order.Basic

/-!
# Readers and the formats they invert

A reader takes a value off the front of its input or fails with an error. It
inverts a format when it reads back what the format writes, whatever follows,
and accepts nothing else. The rules below follow the shape of a reader that is
written with `do`.
-/

namespace Telekio.Codec

universe u

variable {ε β α γ : Type u}

/-- A reader of values from a list of symbols, with a shared cursor and its
own errors. -/
abbrev Reader (ε β : Type u) : Type u → Type u :=
  StateT (List β) (Except ε)

/-- The reader inverts the format on the values that fit. -/
structure Inverts (read : Reader ε β α) (fits : α → Prop)
    (format : α → List β) : Prop where
  read_format : ∀ value rest, fits value →
    read.run (format value ++ rest) = .ok (value, rest)
  format_read : ∀ input value rest, read.run input = .ok (value, rest) →
    fits value ∧ input = format value ++ rest

/-- Where the reader fails with the error, the place holds of the input that
is left. -/
def FailsAt (read : Reader ε β α) (error : ε)
    (place : List β → Prop) : Prop :=
  ∀ input, read.run input = .error error →
    ∃ front rest, input = front ++ rest ∧ place rest

/-- Read one value after another, as often as told. -/
def collect (read : Reader ε β α) : Nat → Reader ε β (List α)
  | 0 => pure []
  | count + 1 => do
      let value ← read
      let values ← collect read count
      pure (value :: values)

/-- A sequence that succeeds has read both parts. -/
theorem run_bind_eq_ok {read : Reader ε β α} {other : α → Reader ε β γ}
    {input rest : List β} {result : γ}
    (ran : (read >>= other).run input = .ok (result, rest)) :
    ∃ value middle, read.run input = .ok (value, middle) ∧
      (other value).run middle = .ok (result, rest) := by
  rw [StateT.run_bind] at ran
  cases first : read.run input with
  | error error =>
      rw [first] at ran
      cases ran
  | ok found =>
      rw [first] at ran
      exact ⟨found.1, found.2, rfl, ran⟩

/-- A sequence that fails has failed in one of its parts. -/
theorem run_bind_eq_error {read : Reader ε β α}
    {other : α → Reader ε β γ} {input : List β} {error : ε}
    (ran : (read >>= other).run input = .error error) :
    read.run input = .error error ∨
      ∃ value middle, read.run input = .ok (value, middle) ∧
        (other value).run middle = .error error := by
  rw [StateT.run_bind] at ran
  cases first : read.run input with
  | error earlier =>
      rw [first] at ran
      cases ran
      exact Or.inl rfl
  | ok found =>
      rw [first] at ran
      exact Or.inr ⟨found.1, found.2, rfl, ran⟩

namespace Inverts

variable {read : Reader ε β α} {fits : α → Prop} {format : α → List β}

/-- Another description of the same values. -/
theorem congr {otherFits : α → Prop} {other : α → List β}
    (inverts : Inverts read fits format)
    (sameFits : ∀ value, otherFits value ↔ fits value)
    (same : ∀ value, fits value → other value = format value) :
    Inverts read otherFits other where
  read_format := by
    intro value rest fit
    have fit := (sameFits value).mp fit
    rw [same value fit]
    exact inverts.read_format value rest fit
  format_read := by
    intro input value rest ran
    obtain ⟨fit, rfl⟩ := inverts.format_read _ _ _ ran
    exact ⟨(sameFits value).mpr fit, by rw [same value fit]⟩

/-- Two values in sequence. -/
theorem bind {other : α → Reader ε β γ} {otherFits : γ → Prop}
    {rest : γ → List β} {head : γ → α}
    (first : Inverts read fits format)
    (second : ∀ value, fits value → Inverts (other value)
      (fun result => otherFits result ∧ head result = value) rest)
    (headFits : ∀ result, otherFits result → fits (head result)) :
    Inverts (read >>= other) otherFits
      (fun result => format (head result) ++ rest result) where
  read_format := by
    intro result tail fit
    have headFit := headFits result fit
    rw [List.append_assoc, StateT.run_bind,
      first.read_format _ _ headFit]
    exact (second _ headFit).read_format result tail ⟨fit, rfl⟩
  format_read := by
    intro input result tail ran
    obtain ⟨value, middle, readFirst, readSecond⟩ := run_bind_eq_ok ran
    obtain ⟨valueFits, rfl⟩ := first.format_read _ _ _ readFirst
    obtain ⟨⟨fit, same⟩, rfl⟩ :=
      (second value valueFits).format_read _ _ _ readSecond
    exact ⟨fit, by rw [same, List.append_assoc]⟩

/-- A step that reads nothing, before a value. -/
theorem after {step : Reader ε β PUnit} {allowed : Prop}
    (first : Inverts step (fun _ => allowed) (fun _ => []))
    (second : allowed → Inverts read fits format)
    (needs : ∀ value, fits value → allowed) :
    Inverts (step >>= fun _ => read) fits format where
  read_format := by
    intro value rest fit
    have stepped := first.read_format ⟨⟩ (format value ++ rest)
      (needs value fit)
    rw [List.nil_append] at stepped
    rw [StateT.run_bind, stepped]
    exact (second (needs value fit)).read_format value rest fit
  format_read := by
    intro input value rest ran
    obtain ⟨_, middle, stepped, readValue⟩ := run_bind_eq_ok ran
    obtain ⟨isAllowed, rfl⟩ := first.format_read _ _ _ stepped
    exact (second isAllowed).format_read _ _ _ readValue

/-- The value that has been built from what was read. -/
theorem pure {value : α} :
    Inverts (Pure.pure value : Reader ε β α)
      (fun result => result = value) (fun _ => []) where
  read_format := by
    rintro result rest rfl
    rfl
  format_read := by
    intro input result rest ran
    cases ran
    exact ⟨rfl, rfl⟩

/-- What fails inverts the format of no value. -/
theorem throw (error : ε) (format : α → List β) :
    Inverts (throw error : Reader ε β α) (fun _ => False) format where
  read_format := fun _ _ => False.elim
  format_read := fun _ _ _ ran => nomatch ran

/-- A value that is refused unless it passes a check. -/
theorem check {passes : α → Prop} [DecidablePred passes] (error : ε)
    (inverts : Inverts read fits format) :
    Inverts (read >>= fun value =>
        if passes value then Pure.pure value
        else MonadExcept.throw error)
      (fun value => fits value ∧ passes value) format where
  read_format := by
    intro value rest ⟨fit, pass⟩
    rw [StateT.run_bind, inverts.read_format _ _ fit]
    exact congrArg (fun reader => StateT.run reader rest) (if_pos pass)
  format_read := by
    intro input result tail ran
    obtain ⟨value, rest, readValue, checked⟩ := run_bind_eq_ok ran
    obtain ⟨fit, rfl⟩ := inverts.format_read _ _ _ readValue
    by_cases pass : passes value
    · rw [if_pos pass] at checked
      cases checked
      exact ⟨⟨fit, pass⟩, rfl⟩
    · rw [if_neg pass] at checked
      cases checked

/-- The values of a list, one after another. -/
theorem collect (inverts : Inverts read fits format) (count : Nat) :
    Inverts (collect read count)
      (fun values => values.length = count ∧ ∀ value ∈ values, fits value)
      (List.flatMap format) := by
  induction count with
  | zero =>
      refine Inverts.pure.congr (fun values => ?_) (fun values none => ?_)
      · constructor
        · exact fun empty => List.length_eq_zero_iff.mp empty.1
        · rintro rfl
          exact ⟨rfl, nofun⟩
      · rw [none]
        rfl
  | succ count inductionHypothesis =>
      constructor
      · rintro (_ | ⟨value, values⟩) rest ⟨length, all⟩
        · cases length
        · obtain ⟨fit, others⟩ := List.forall_mem_cons.mp all
          have later := inductionHypothesis.read_format values rest
            ⟨Nat.succ.inj length, others⟩
          rw [Codec.collect, List.flatMap_cons, List.append_assoc,
            StateT.run_bind, inverts.read_format _ _ fit]
          exact congrArg (fun found => found >>= fun found =>
            Pure.pure (value :: found.1, found.2)) later
      · intro input values rest ran
        obtain ⟨value, middle, readFirst, readLater⟩ := run_bind_eq_ok ran
        obtain ⟨fit, rfl⟩ := inverts.format_read _ _ _ readFirst
        obtain ⟨others, last, readOthers, built⟩ :=
          run_bind_eq_ok readLater
        obtain ⟨⟨rfl, all⟩, rfl⟩ :=
          inductionHypothesis.format_read _ _ _ readOthers
        cases built
        refine ⟨⟨rfl, List.forall_mem_cons.mpr ⟨fit, all⟩⟩, ?_⟩
        rw [List.flatMap_cons, List.append_assoc]

end Inverts

namespace FailsAt

variable {read : Reader ε β α} {fits : α → Prop} {format : α → List β}
variable {error : ε} {place : List β → Prop}

theorem pure (value : α) :
    FailsAt (Pure.pure value : Reader ε β α) error place :=
  fun _ ran => nomatch ran

/-- Another error is thrown. -/
theorem throw {other : ε} (different : other ≠ error) :
    FailsAt (throw other : Reader ε β α) error place := by
  intro input ran
  cases ran
  exact absurd rfl different

theorem bind {other : α → Reader ε β γ}
    (inverts : Inverts read fits format) (first : FailsAt read error place)
    (second : ∀ value, FailsAt (other value) error place) :
    FailsAt (read >>= other) error place := by
  intro input ran
  rcases run_bind_eq_error ran with
    failed | ⟨value, middle, readFirst, failed⟩
  · exact first input failed
  · obtain ⟨-, rfl⟩ := inverts.format_read _ _ _ readFirst
    obtain ⟨front, rest, rfl, found⟩ := second value middle failed
    exact ⟨format value ++ front, rest, by rw [List.append_assoc], found⟩

theorem collect (inverts : Inverts read fits format)
    (fails : FailsAt read error place) (count : Nat) :
    FailsAt (collect read count) error place := by
  induction count with
  | zero => exact FailsAt.pure _
  | succ count inductionHypothesis =>
      refine fails.bind inverts fun value => ?_
      exact inductionHypothesis.bind (inverts.collect count)
        fun values => FailsAt.pure _

end FailsAt

end Telekio.Codec
