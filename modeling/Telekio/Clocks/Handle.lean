import Telekio.Clocks.Offset

/-!
# The guest's clock and its timers

`Handle::now`, `Handle::timer` and `Timer::reset` of `telekio-abi/src/time.rs`
over `clock`, `timer` and `reset_time_timer` of `bridge/runtime/time.rs`. Host
and guest each fix an origin, at their first use of it, and the two origins
are not the same instant: the guest estimates its own from a clock sample.
-/

namespace Telekio.Clocks

open Telekio.Timeline

structure ClockSample where
  realtime : InstantOffset
  logical : InstantOffset

/-- `CLOCK_ORIGIN` of the host and of the guest. -/
structure Origins where
  host : Option Instant
  guest : Option Instant

/-- What the clocks show at each point of a call that reads one. -/
structure Readings where
  hostOrigin : Instant
  realtime : Instant
  /-- Tokio's clock, which can be paused and advanced. -/
  logical : Instant
  guest : Instant

inductive Call where
  | now (readings : Readings)
  | timer (readings : Readings) (deadline : Instant)
  | reset (hostOrigin deadline : Instant)

/-- What a call that does not panic has done. -/
inductive Event where
  /-- `Handle::now` has returned `value` for a sample of `logical`. -/
  | sampled (logical value : Instant)
  /-- The host timer for `deadline` waits for `hostDeadline`. -/
  | armed (deadline hostDeadline : Instant)

namespace Origins

variable (origins : Origins) (readings : Readings)

/-- The host's half of `now`. -/
def clock : ClockSample × Origins :=
  let origin := origins.host.getD readings.hostOrigin
  ({ realtime := instantOffset origin readings.realtime
     logical := instantOffset origin readings.logical },
    { origins with host := some origin })

/-- The guest's half: an origin that cannot be represented leaves the cell
empty. -/
def resume (sample : ClockSample) : Option Instant × Origins :=
  let origin := origins.guest.or (sample.realtime.remove readings.guest)
  (origin.bind sample.logical.apply, { origins with guest := origin })

def now : Option Instant × Origins :=
  let (sample, origins) := origins.clock readings
  origins.resume readings sample

def timeInstant (hostOrigin : Instant) (offset : InstantOffset) :
    Option Instant × Origins :=
  let origin := origins.host.getD hostOrigin
  (offset.apply origin, { origins with host := some origin })

/-- The deadline of the host timer. -/
def timer (deadline : Instant) : Option Instant × Origins :=
  match origins.now readings with
  | (none, origins) => (none, origins)
  | (some _, origins) =>
      match origins.guest with
      | none => (none, origins)
      | some origin =>
          origins.timeInstant readings.hostOrigin
            (InstantOffset.between origin deadline)

def reset (hostOrigin deadline : Instant) : Option Instant × Origins :=
  match origins.guest with
  -- "Tokio clock is not initialized"
  | none => (none, origins)
  | some origin =>
      origins.timeInstant hostOrigin (InstantOffset.between origin deadline)

def call : Call → Option Event × Origins
  | .now readings =>
      let (value, after) := origins.now readings
      (value.map (Event.sampled readings.logical), after)
  | .timer readings deadline =>
      let (hostDeadline, after) := origins.timer readings deadline
      (hostDeadline.map (Event.armed deadline), after)
  | .reset hostOrigin deadline =>
      let (hostDeadline, after) := origins.reset hostOrigin deadline
      (hostDeadline.map (Event.armed deadline), after)

/-- The events of a sequence of calls. -/
def run (origins : Origins) : List Call → List Event × Origins
  | [] => ([], origins)
  | call :: calls =>
      let (event, next) := origins.call call
      let (events, after) := run next calls
      (event.toList ++ events, after)

end Origins

/-- Both sides are as far from their origins. -/
def Event.IsExact (hostOrigin guestOrigin : Instant) : Event → Prop
  | .sampled logical value =>
      value.total - guestOrigin.total = logical.total - hostOrigin.total
  | .armed deadline hostDeadline =>
      hostDeadline.total - hostOrigin.total =
        deadline.total - guestOrigin.total

namespace Origins

/-- An origin that is set is not set again. -/
structure Keeps (before after : Origins) : Prop where
  host : ∀ {origin}, before.host = some origin → after.host = some origin
  guest : ∀ {origin}, before.guest = some origin →
    after.guest = some origin

/-- The origins are set, and an event is exact for them. -/
def Explains (origins : Origins) (event : Event) : Prop :=
  ∃ hostOrigin guestOrigin, origins.host = some hostOrigin ∧
    origins.guest = some guestOrigin ∧
    event.IsExact hostOrigin guestOrigin

variable {origins before between after : Origins}

theorem Keeps.refl (origins : Origins) : origins.Keeps origins :=
  ⟨id, id⟩

theorem Keeps.trans (first : before.Keeps between)
    (second : between.Keeps after) : before.Keeps after where
  host found := second.host (first.host found)
  guest found := second.guest (first.guest found)

theorem Explains.mono {event : Event} (explained : before.Explains event)
    (keeps : before.Keeps after) : after.Explains event := by
  obtain ⟨hostOrigin, guestOrigin, host, guest, exact⟩ := explained
  exact ⟨hostOrigin, guestOrigin, keeps.host host, keeps.guest guest, exact⟩

variable (origins) (readings : Readings)

theorem keeps_host (hostOrigin : Instant) :
    origins.Keeps
      { origins with host := some (origins.host.getD hostOrigin) } where
  host found := by simp [found]
  guest := id

theorem keeps_resume (sample : ClockSample) :
    origins.Keeps (origins.resume readings sample).2 where
  host := id
  guest found := by simp [resume, found]

theorem keeps_now : origins.Keeps (origins.now readings).2 :=
  (origins.keeps_host readings.hostOrigin).trans
    (keeps_resume _ readings _)

theorem keeps_timeInstant (hostOrigin : Instant) (offset : InstantOffset) :
    origins.Keeps (origins.timeInstant hostOrigin offset).2 :=
  origins.keeps_host hostOrigin

theorem keeps_timer (deadline : Instant) :
    origins.Keeps (origins.timer readings deadline).2 := by
  have sampled := origins.keeps_now readings
  unfold timer
  split
  · rename_i next value
    rwa [value] at sampled
  · rename_i value next found
    rw [found] at sampled
    split
    · exact sampled
    · exact sampled.trans (next.keeps_timeInstant _ _)

theorem keeps_reset (hostOrigin deadline : Instant) :
    origins.Keeps (origins.reset hostOrigin deadline).2 := by
  unfold reset
  split
  · exact .refl origins
  · exact origins.keeps_timeInstant _ _

theorem keeps_call (call : Call) : origins.Keeps (origins.call call).2 := by
  cases call with
  | now readings => exact origins.keeps_now readings
  | timer readings deadline => exact origins.keeps_timer readings deadline
  | reset hostOrigin deadline => exact origins.keeps_reset hostOrigin deadline

/-- The instant that the offset names lies as far from the origin of the
host. -/
theorem timeInstant_eq_some_iff {origin hostOrigin guestOrigin : Instant}
    {deadline hostDeadline : Instant}
    (host : origins.host.getD origin = hostOrigin) :
    (origins.timeInstant origin
        (InstantOffset.between guestOrigin deadline)).1 =
        some hostDeadline ↔
      hostDeadline.total - hostOrigin.total =
        deadline.total - guestOrigin.total := by
  rw [timeInstant, host, InstantOffset.apply_eq_some_iff
    (InstantOffset.moves_between guestOrigin deadline)]
  omega

theorem now_eq_some_iff {hostOrigin guestOrigin value : Instant}
    (host : origins.host.getD readings.hostOrigin = hostOrigin)
    (guest : (origins.now readings).2.guest = some guestOrigin) :
    (origins.now readings).1 = some value ↔
      value.total - guestOrigin.total =
        readings.logical.total - hostOrigin.total := by
  subst host
  simp only [now, clock, resume] at guest ⊢
  rw [guest, Option.bind_some, InstantOffset.apply_eq_some_iff
    (InstantOffset.moves_instantOffset _ readings.logical)]
  omega

theorem host_now : (origins.now readings).2.host =
    some (origins.host.getD readings.hostOrigin) :=
  rfl

/-- A value of `now` comes from the origin of the guest. -/
theorem guest_of_now {value : Instant}
    (sampled : (origins.now readings).1 = some value) :
    ∃ guestOrigin, (origins.now readings).2.guest = some guestOrigin := by
  obtain ⟨guestOrigin, found, -⟩ := Option.bind_eq_some_iff.mp sampled
  exact ⟨guestOrigin, found⟩

theorem explains_now {value : Instant}
    (sampled : (origins.now readings).1 = some value) :
    (origins.now readings).2.Explains (.sampled readings.logical value) := by
  obtain ⟨guestOrigin, guest⟩ := origins.guest_of_now readings sampled
  exact ⟨_, guestOrigin, rfl, guest,
    (origins.now_eq_some_iff readings rfl guest).mp sampled⟩

/-- Once the clock is sampled, the timer is created for its deadline. -/
theorem timer_of_now {value guestOrigin : Instant} (deadline : Instant)
    (sampled : (origins.now readings).1 = some value)
    (guest : (origins.now readings).2.guest = some guestOrigin) :
    origins.timer readings deadline =
      (origins.now readings).2.timeInstant readings.hostOrigin
        (InstantOffset.between guestOrigin deadline) := by
  unfold timer
  generalize origins.now readings = result at sampled guest
  obtain ⟨found, next⟩ := result
  dsimp only at sampled guest
  simp only [sampled, guest]

theorem explains_timeInstant {origin guestOrigin : Instant}
    {deadline hostDeadline : Instant}
    (guest : origins.guest = some guestOrigin)
    (armed : (origins.timeInstant origin
      (InstantOffset.between guestOrigin deadline)).1 = some hostDeadline) :
    (origins.timeInstant origin
      (InstantOffset.between guestOrigin deadline)).2.Explains
        (.armed deadline hostDeadline) :=
  ⟨_, guestOrigin, rfl, guest,
    (origins.timeInstant_eq_some_iff rfl).mp armed⟩

theorem explains_timer {deadline hostDeadline : Instant}
    (armed : (origins.timer readings deadline).1 = some hostDeadline) :
    (origins.timer readings deadline).2.Explains
      (.armed deadline hostDeadline) := by
  unfold timer at armed ⊢
  split at armed
  · cases armed
  · rename_i value next found
    split at armed
    · cases armed
    · rename_i guestOrigin guest
      exact next.explains_timeInstant guest armed

theorem explains_reset {hostOrigin deadline hostDeadline : Instant}
    (armed : (origins.reset hostOrigin deadline).1 = some hostDeadline) :
    (origins.reset hostOrigin deadline).2.Explains
      (.armed deadline hostDeadline) := by
  unfold reset at armed ⊢
  split at armed
  · cases armed
  · rename_i guestOrigin guest
    exact origins.explains_timeInstant guest armed

theorem explains_call {call : Call} {event : Event}
    (done : (origins.call call).1 = some event) :
    (origins.call call).2.Explains event := by
  cases call with
  | now readings =>
      obtain ⟨value, sampled, rfl⟩ := Option.map_eq_some_iff.mp done
      exact origins.explains_now readings sampled
  | timer readings deadline =>
      obtain ⟨hostDeadline, armed, rfl⟩ := Option.map_eq_some_iff.mp done
      exact origins.explains_timer readings armed
  | reset hostOrigin deadline =>
      obtain ⟨hostDeadline, armed, rfl⟩ := Option.map_eq_some_iff.mp done
      exact origins.explains_reset armed

/-! ## Runs -/

theorem keeps_run (calls : List Call) :
    origins.Keeps (origins.run calls).2 := by
  induction calls generalizing origins with
  | nil => exact .refl origins
  | cons call calls ih => exact (origins.keeps_call call).trans (ih _)

theorem explains_run (calls : List Call) :
    ∀ event ∈ (origins.run calls).1,
      (origins.run calls).2.Explains event := by
  induction calls generalizing origins with
  | nil => simp [run]
  | cons call calls ih =>
      intro event member
      rcases List.mem_append.mp member with first | later
      · have explained := origins.explains_call (Option.mem_toList.mp first)
        exact explained.mono (keeps_run _ calls)
      · exact ih _ event later

end Origins

/-- What the events of a run have to do with each other. -/
structure Agreement (events : List Event) : Prop where
  increasing : ∀ {deadline hostDeadline later hostLater},
    .armed deadline hostDeadline ∈ events →
    .armed later hostLater ∈ events →
    (hostDeadline < hostLater ↔ deadline < later)
  onTime : ∀ {deadline hostDeadline logical value},
    .armed deadline hostDeadline ∈ events →
    .sampled logical value ∈ events →
    (hostDeadline ≤ logical ↔ deadline ≤ value)

namespace Origins

variable {origins : Origins}

/-- All events are exact for one pair of origins. -/
theorem agreement_of_explains {events : List Event}
    (explained : ∀ event ∈ events, origins.Explains event) :
    Agreement events where
  increasing first second := by
    obtain ⟨hostOrigin, guestOrigin, host, guest, exact⟩ := explained _ first
    obtain ⟨otherHost, otherGuest, sameHost, sameGuest, otherExact⟩ :=
      explained _ second
    cases host.symm.trans sameHost
    cases guest.symm.trans sameGuest
    simp only [Event.IsExact] at exact otherExact
    rw [Instant.lt_iff_total, Instant.lt_iff_total]
    omega
  onTime armed sampled := by
    obtain ⟨hostOrigin, guestOrigin, host, guest, exact⟩ := explained _ armed
    obtain ⟨otherHost, otherGuest, sameHost, sameGuest, otherExact⟩ :=
      explained _ sampled
    cases host.symm.trans sameHost
    cases guest.symm.trans sameGuest
    simp only [Event.IsExact] at exact otherExact
    rw [Instant.le_iff_total, Instant.le_iff_total]
    omega

end Origins

/-- The guest's clock and its deadlines agree with the host to the
nanosecond: offsets are applied and removed inversely; with origins that are
set, whatever they are, `now` and each timer have exactly the representable
value; and in a run from any origins all deadlines keep their order, with
each other and with all values of `now`. -/
theorem guestTime_agrees :
    (∀ offset : InstantOffset, ∀ instant result : Instant,
      offset.remove result = some instant ↔
        offset.apply instant = some result) ∧
    (∀ origins : Origins, ∀ hostOrigin guestOrigin : Instant,
      origins.host = some hostOrigin → origins.guest = some guestOrigin →
      (∀ readings value, (origins.now readings).1 = some value ↔
        value.total - guestOrigin.total =
          readings.logical.total - hostOrigin.total) ∧
      (∀ readings deadline hostDeadline,
        (origins.now readings).1.isSome →
        ((origins.timer readings deadline).1 = some hostDeadline ↔
          hostDeadline.total - hostOrigin.total =
            deadline.total - guestOrigin.total)) ∧
      (∀ reading deadline hostDeadline,
        (origins.reset reading deadline).1 = some hostDeadline ↔
          hostDeadline.total - hostOrigin.total =
            deadline.total - guestOrigin.total)) ∧
    (∀ origins : Origins, ∀ calls : List Call,
      (∀ event ∈ (origins.run calls).1,
        (origins.run calls).2.Explains event) ∧
      Agreement (origins.run calls).1) := by
  refine ⟨fun _ _ _ => InstantOffset.remove_eq_some_iff_apply_eq_some,
    ?_, ?_⟩
  · intro origins hostOrigin guestOrigin host guest
    have kept : ∀ readings,
        (origins.now readings).2.guest = some guestOrigin :=
      fun readings => (origins.keeps_now readings).guest guest
    refine ⟨?_, ?_, ?_⟩
    · intro readings value
      exact origins.now_eq_some_iff readings (by simp [host]) (kept readings)
    · intro readings deadline hostDeadline sampled
      obtain ⟨value, found⟩ := Option.isSome_iff_exists.mp sampled
      rw [origins.timer_of_now readings deadline found (kept readings)]
      exact Origins.timeInstant_eq_some_iff _
        (by simp [Origins.host_now, host])
    · intro reading deadline hostDeadline
      simp only [Origins.reset, guest]
      exact origins.timeInstant_eq_some_iff (by simp [host])
  · intro origins calls
    have explained := origins.explains_run calls
    exact ⟨explained, Origins.agreement_of_explains explained⟩

/-- The host's origin is at 100.5 s and the guest's at 7.9 s; a deadline at
3.2 s, before the guest's origin, is one at 95.8 s for the host. -/
theorem guestTime_agrees_of_reset :
    ((Origins.mk
          (some ⟨100, 500000000, by decide, by decide, by decide⟩)
          (some ⟨7, 900000000, by decide, by decide, by decide⟩)).reset
        ⟨0, 0, by decide, by decide, by decide⟩
        ⟨3, 200000000, by decide, by decide, by decide⟩).1 =
      some ⟨95, 800000000, by decide, by decide, by decide⟩ :=
  ((guestTime_agrees.2.1 _ _ _ rfl rfl).2.2 _ _ _).mpr (by decide)

end Telekio.Clocks
