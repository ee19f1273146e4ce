import Telekio.Timeline.Instant

/-!
# Instants as offsets from an origin

Instants cross between a guest and its host as offsets from the origin that
each side keeps for itself: `InstantOffset` of `telekio-abi/src/time.rs`, and
`instant_offset` and `time_instant` of `bridge/runtime/time.rs`, which have
the same code again.
-/

namespace Telekio.Clocks

open Telekio.Timeline

structure DurationParts where
  seconds : Nat
  nanoseconds : Nat

namespace DurationParts

def new (duration : Duration) : DurationParts where
  seconds := duration.seconds
  nanoseconds := duration.nanoseconds

def duration (parts : DurationParts) : Option Duration :=
  Duration.new parts.seconds parts.nanoseconds

@[simp]
theorem duration_new (duration : Duration) :
    (new duration).duration = some duration :=
  duration.new_self

end DurationParts

structure InstantOffset where
  duration : DurationParts
  negative : Nat

namespace InstantOffset

/-- The guest's direction. -/
def between (origin instant : Instant) : InstantOffset :=
  match instant.checkedDurationSince origin with
  | some duration =>
      { duration := .new duration
        negative := 0 }
  | none =>
      { duration := .new (origin.durationSince instant)
        negative := 1 }

variable (offset : InstantOffset) (instant : Instant)

/-- `None` is the panic of `Duration::new` or of the operator. -/
def apply : Option Instant := do
  let duration ← offset.duration.duration
  if offset.negative = 0 then
    instant.checkedAdd duration
  else
    instant.checkedSub duration

def remove : Option Instant := do
  let duration ← offset.duration.duration
  if offset.negative = 0 then
    instant.checkedSub duration
  else
    instant.checkedAdd duration

end InstantOffset

/-- The host's copy of `between`. -/
def instantOffset (origin instant : Instant) : InstantOffset :=
  match instant.checkedDurationSince origin with
  | some duration =>
      { duration := .new duration
        negative := 0 }
  | none =>
      { duration := .new (origin.durationSince instant)
        negative := 1 }

namespace InstantOffset

variable {offset : InstantOffset} {instant result : Instant}

/-- The nanoseconds by which the offset moves an instant. -/
def Moves (offset : InstantOffset) (distance : Int) : Prop :=
  ∃ duration, offset.duration.duration = some duration ∧
    distance = if offset.negative = 0 then duration.total
      else -duration.total

theorem moves_between (origin instant : Instant) :
    (between origin instant).Moves (instant.total - origin.total) := by
  unfold between
  by_cases ordered : origin ≤ instant
  · obtain ⟨duration, found, total⟩ :=
      Instant.checkedDurationSince_of_le ordered
    rw [found]
    exact ⟨duration, DurationParts.duration_new duration, total.symm⟩
  · -- here the offset is that from the instant to the origin
    have reversed : instant ≤ origin := by
      rw [Instant.le_iff_total] at ordered ⊢
      omega
    rw [Instant.checkedDurationSince_of_not_le ordered]
    refine ⟨_, DurationParts.duration_new _, ?_⟩
    have total := Instant.total_durationSince reversed
    simp only [one_ne_zero, if_false, total]
    omega

theorem moves_instantOffset (origin instant : Instant) :
    (instantOffset origin instant).Moves (instant.total - origin.total) :=
  moves_between origin instant

theorem apply_eq_some_iff {distance : Int} (moves : offset.Moves distance) :
    offset.apply instant = some result ↔
      result.total = instant.total + distance := by
  obtain ⟨duration, parts, rfl⟩ := moves
  rw [apply, parts, Option.bind_eq_bind, Option.bind_some]
  split
  · exact Instant.checkedAdd_eq_some_iff
  · rw [Instant.checkedSub_eq_some_iff]
    omega

theorem remove_eq_some_iff {distance : Int} (moves : offset.Moves distance) :
    offset.remove instant = some result ↔
      result.total = instant.total - distance := by
  obtain ⟨duration, parts, rfl⟩ := moves
  rw [remove, parts, Option.bind_eq_bind, Option.bind_some]
  split
  · exact Instant.checkedSub_eq_some_iff
  · rw [Instant.checkedAdd_eq_some_iff]
    omega

/-- An offset with too long a duration moves no instant at all. -/
theorem moves_or_none (offset : InstantOffset) :
    (∃ distance, offset.Moves distance) ∨
      offset.duration.duration = none := by
  cases parts : offset.duration.duration with
  | none => exact Or.inr rfl
  | some duration => exact Or.inl ⟨_, duration, parts, rfl⟩

theorem remove_eq_some_iff_apply_eq_some :
    offset.remove result = some instant ↔
      offset.apply instant = some result := by
  rcases offset.moves_or_none with ⟨distance, moves⟩ | parts
  · rw [remove_eq_some_iff moves, apply_eq_some_iff moves]
    omega
  · simp [remove, apply, parts]

end InstantOffset

end Telekio.Clocks
