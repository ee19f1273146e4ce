import Mathlib.Algebra.Order.Ring.Int

/-!
# Instants and durations

Points in time and lengths of time as `std::time` keeps them: whole seconds,
in 64 bits, and the nanoseconds of a second. An operation whose result has no
such form gives `none`.
-/

namespace Telekio.Timeline

/-- A length of time, with an unsigned number of seconds. -/
structure Duration where
  seconds : Nat
  nanoseconds : Nat
  seconds_lt : seconds < 2 ^ 64
  nanoseconds_lt : nanoseconds < 1000000000

/-- A point in time, with a signed number of seconds. -/
structure Instant where
  seconds : Int
  nanoseconds : Nat
  seconds_ge : -2 ^ 63 ≤ seconds
  seconds_lt : seconds < 2 ^ 63
  nanoseconds_lt : nanoseconds < 1000000000

namespace Duration

def zero : Duration :=
  ⟨0, 0, by decide, by decide⟩

variable (duration : Duration)

/-- The length in nanoseconds. -/
def total : Int :=
  duration.seconds * 1000000000 + duration.nanoseconds

/-- Nanoseconds of a second and more are carried. -/
def new (seconds nanoseconds : Nat) : Option Duration :=
  if fits : seconds + nanoseconds / 1000000000 < 2 ^ 64 then
    some ⟨seconds + nanoseconds / 1000000000, nanoseconds % 1000000000,
      fits, Nat.mod_lt _ (by decide)⟩
  else
    none

@[simp]
theorem new_self :
    new duration.seconds duration.nanoseconds = some duration := by
  have whole : duration.seconds + duration.nanoseconds / 1000000000 =
      duration.seconds := by
    rw [Nat.div_eq_of_lt duration.nanoseconds_lt, Nat.add_zero]
  have rest : duration.nanoseconds % 1000000000 = duration.nanoseconds :=
    Nat.mod_eq_of_lt duration.nanoseconds_lt
  simp only [new, whole, rest, dif_pos duration.seconds_lt]

end Duration

namespace Instant

/-- An `i64` number of seconds. -/
def ofSeconds (seconds : Int) (nanoseconds : Nat) : Option Instant :=
  if fits : -2 ^ 63 ≤ seconds ∧ seconds < 2 ^ 63 ∧
      nanoseconds < 1000000000 then
    some ⟨seconds, nanoseconds, fits.1, fits.2.1, fits.2.2⟩
  else
    none

variable (instant : Instant)

/-- The nanoseconds from the zero of the clock. -/
def total : Int :=
  instant.seconds * 1000000000 + instant.nanoseconds

def checkedAdd (duration : Duration) : Option Instant := do
  let sum ← ofSeconds (instant.seconds + duration.seconds) 0
  if instant.nanoseconds + duration.nanoseconds < 1000000000 then
    ofSeconds sum.seconds (instant.nanoseconds + duration.nanoseconds)
  else
    ofSeconds (sum.seconds + 1)
      (instant.nanoseconds + duration.nanoseconds - 1000000000)

def checkedSub (duration : Duration) : Option Instant := do
  let difference ← ofSeconds (instant.seconds - duration.seconds) 0
  if duration.nanoseconds ≤ instant.nanoseconds then
    ofSeconds difference.seconds
      (instant.nanoseconds - duration.nanoseconds)
  else
    ofSeconds (difference.seconds - 1)
      (instant.nanoseconds + 1000000000 - duration.nanoseconds)

instance : LE Instant where
  le earlier later :=
    earlier.seconds < later.seconds ∨
      earlier.seconds = later.seconds ∧
        earlier.nanoseconds ≤ later.nanoseconds

instance : LT Instant where
  lt earlier later :=
    earlier.seconds < later.seconds ∨
      earlier.seconds = later.seconds ∧
        earlier.nanoseconds < later.nanoseconds

instance (earlier later : Instant) : Decidable (earlier ≤ later) :=
  inferInstanceAs (Decidable (_ ∨ _))

instance (earlier later : Instant) : Decidable (earlier < later) :=
  inferInstanceAs (Decidable (_ ∨ _))

variable {instant} {earlier later : Instant}

theorem le_def : earlier ≤ later ↔
    earlier.seconds < later.seconds ∨
      earlier.seconds = later.seconds ∧
        earlier.nanoseconds ≤ later.nanoseconds :=
  Iff.rfl

theorem lt_def : earlier < later ↔
    earlier.seconds < later.seconds ∨
      earlier.seconds = later.seconds ∧
        earlier.nanoseconds < later.nanoseconds :=
  Iff.rfl

/-- `None` when the other instant is the later one. -/
def checkedDurationSince (instant earlier : Instant) : Option Duration :=
  if ordered : earlier ≤ instant then
    if borrow : earlier.nanoseconds ≤ instant.nanoseconds then
      some
        { seconds := (instant.seconds - earlier.seconds).toNat
          nanoseconds := instant.nanoseconds - earlier.nanoseconds
          seconds_lt := by
            have lower := earlier.seconds_ge
            have upper := instant.seconds_lt
            omega
          nanoseconds_lt := by
            have small := instant.nanoseconds_lt
            omega }
    else
      some
        { seconds := (instant.seconds - earlier.seconds - 1).toNat
          nanoseconds :=
            instant.nanoseconds + 1000000000 - earlier.nanoseconds
          seconds_lt := by
            have lower := earlier.seconds_ge
            have upper := instant.seconds_lt
            omega
          nanoseconds_lt := by
            have small := instant.nanoseconds_lt
            omega }
  else
    none

/-- The difference, or zero. -/
def durationSince (instant earlier : Instant) : Duration :=
  (instant.checkedDurationSince earlier).getD .zero

theorem le_iff_total : earlier ≤ later ↔ earlier.total ≤ later.total := by
  have small := earlier.nanoseconds_lt
  have laterSmall := later.nanoseconds_lt
  rw [le_def, total, total]
  omega

theorem lt_iff_total : earlier < later ↔ earlier.total < later.total := by
  have small := earlier.nanoseconds_lt
  have laterSmall := later.nanoseconds_lt
  rw [lt_def, total, total]
  omega

theorem ofSeconds_eq_some_iff {seconds : Int} {nanoseconds : Nat}
    {result : Instant} :
    ofSeconds seconds nanoseconds = some result ↔
      result.seconds = seconds ∧ result.nanoseconds = nanoseconds := by
  unfold ofSeconds
  constructor
  · intro made
    split at made
    · cases made
      exact ⟨rfl, rfl⟩
    · cases made
  · rintro ⟨rfl, rfl⟩
    exact dif_pos ⟨result.seconds_ge, result.seconds_lt,
      result.nanoseconds_lt⟩

theorem ofSeconds_zero {seconds : Int} (lower : -2 ^ 63 ≤ seconds)
    (upper : seconds < 2 ^ 63) :
    ofSeconds seconds 0 = some ⟨seconds, 0, lower, upper, by decide⟩ :=
  ofSeconds_eq_some_iff.mpr ⟨rfl, rfl⟩

theorem checkedAdd_eq_some_iff {duration : Duration} {result : Instant} :
    instant.checkedAdd duration = some result ↔
      result.total = instant.total + duration.total := by
  have small := instant.nanoseconds_lt
  have durationSmall := duration.nanoseconds_lt
  have resultSmall := result.nanoseconds_lt
  constructor
  · intro added
    obtain ⟨sum, first, second⟩ := Option.bind_eq_some_iff.mp added
    obtain ⟨sumSeconds, -⟩ := ofSeconds_eq_some_iff.mp first
    split at second <;>
      obtain ⟨seconds, nanoseconds⟩ := ofSeconds_eq_some_iff.mp second <;>
      simp only [total, Duration.total] <;> omega
  · intro same
    simp only [total, Duration.total] at same
    have lower := instant.seconds_ge
    have upper := result.seconds_lt
    have first := @ofSeconds_zero (instant.seconds + duration.seconds)
      (by omega) (by omega)
    rw [checkedAdd, first, Option.bind_eq_bind, Option.bind_some]
    dsimp only
    split <;> refine ofSeconds_eq_some_iff.mpr ⟨?_, ?_⟩ <;> omega

theorem checkedSub_eq_some_iff {duration : Duration} {result : Instant} :
    instant.checkedSub duration = some result ↔
      result.total = instant.total - duration.total := by
  have small := instant.nanoseconds_lt
  have durationSmall := duration.nanoseconds_lt
  have resultSmall := result.nanoseconds_lt
  constructor
  · intro subtracted
    obtain ⟨difference, first, second⟩ :=
      Option.bind_eq_some_iff.mp subtracted
    obtain ⟨differenceSeconds, -⟩ := ofSeconds_eq_some_iff.mp first
    split at second <;>
      obtain ⟨seconds, nanoseconds⟩ := ofSeconds_eq_some_iff.mp second <;>
      simp only [total, Duration.total] <;> omega
  · intro same
    simp only [total, Duration.total] at same
    have upper := instant.seconds_lt
    have lower := result.seconds_ge
    have first := @ofSeconds_zero (instant.seconds - duration.seconds)
      (by omega) (by omega)
    rw [checkedSub, first, Option.bind_eq_bind, Option.bind_some]
    dsimp only
    split <;> refine ofSeconds_eq_some_iff.mpr ⟨?_, ?_⟩ <;> omega

theorem checkedDurationSince_of_le (ordered : earlier ≤ later) :
    ∃ duration, later.checkedDurationSince earlier = some duration ∧
      duration.total = later.total - earlier.total := by
  have small := later.nanoseconds_lt
  have earlierSmall := earlier.nanoseconds_lt
  have order := le_def.mp ordered
  unfold checkedDurationSince
  rw [dif_pos ordered]
  split
  · refine ⟨_, rfl, ?_⟩
    simp only [total, Duration.total]
    omega
  · refine ⟨_, rfl, ?_⟩
    simp only [total, Duration.total]
    omega

theorem checkedDurationSince_of_not_le (ordered : ¬ earlier ≤ later) :
    later.checkedDurationSince earlier = none :=
  dif_neg ordered

theorem total_durationSince (ordered : earlier ≤ later) :
    (later.durationSince earlier).total = later.total - earlier.total := by
  obtain ⟨duration, found, total⟩ := checkedDurationSince_of_le ordered
  rw [durationSince, found]
  exact total

end Instant

end Telekio.Timeline
