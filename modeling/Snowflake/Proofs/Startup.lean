import Snowflake.Machine

/-!
# `Snowflake.Proofs.Startup`: two clocks set by one look

Both clocks count whole milliseconds from an epoch, and both are set by a look at
the wall clock. The system clock rounds the wall time down first and compares and
subtracts milliseconds. The monotonic clock compares and subtracts nanoseconds,
and rounds what is left. `clocks_start_alike` shows that one cannot tell them
apart when they are made: they refuse the same epochs, and start with the same
reading.

It depends on the epoch being a whole number of milliseconds
(`Duration.lt_ofMillis_iff`, `Duration.millis_sub_ofMillis`). An epoch with a
fraction is cut down by the system clock, which then accepts it up to a
millisecond too early.

`MonotonicClock.reading_le_system` is about what comes after: while the wall clock
goes on at the pace of the stopwatch, the readings differ by one millisecond at
most. They may differ, because each of two fractions is rounded down on its own.
-/

set_option autoImplicit false

namespace Snowflake

/-! ### Whole milliseconds -/

namespace Duration

/-- To compare with whole milliseconds, the fraction does not matter. -/
theorem lt_ofMillis_iff {d : Duration} {n : Nat} : d < .ofMillis n ↔ d.millis < n :=
  (Nat.div_lt_iff_lt_mul (by decide : 0 < nanosPerMilli)).symm

/-- Whole milliseconds can be taken away before or after rounding down. -/
theorem millis_sub_ofMillis (d : Duration) (n : Nat) : (d - .ofMillis n).millis = d.millis - n := by
  show (d.nanos - n * nanosPerMilli) / nanosPerMilli = d.nanos / nanosPerMilli - n
  rw [Nat.mul_comm, Nat.sub_mul_div]

end Duration

namespace WallTime

/-- The whole milliseconds from a Unix time, in milliseconds, up to a point on the
wall clock. They are rounded down, and there are none while the Unix time lies
ahead. A point before 1970 counts as the start of 1970. -/
def millisSince (t : WallTime) (n : Nat) : Nat :=
  ((max t.nanos 0 - n * 1000000) / 1000000).toNat

/-- The whole milliseconds since 1970, less the Unix time. -/
theorem millisSince_eq (t : WallTime) (n : Nat) : t.millisSince n = t.sinceUnixEpoch.millis - n := by
  have hnanos : max t.nanos 0 = (t.sinceUnixEpoch.nanos : Int) := by
    show _ = (t.nanos.toNat : Int)
    omega
  rw [millisSince, hnanos]
  show _ = t.sinceUnixEpoch.nanos / 1000000 - n
  omega

/-- The milliseconds since 1970 are not cut off by the size of a word. -/
theorem unixMillis_eq {t : WallTime} (h : t.sinceUnixEpoch.millis < UInt64.size) :
    t.unixMillis = t.sinceUnixEpoch.millis :=
  Nat.mod_eq_of_lt h

end WallTime

variable {wall : WallTime} {n : Nat}

/-! ### The system clock -/

namespace SystemClock

/-- An epoch in whole milliseconds is kept as it is. -/
theorem epochMillis_withEpoch (hepoch : n < UInt64.size) :
    (withEpoch (.ofMillis n)).epochMillis = n := by
  show (Duration.ofMillis n).millis % UInt64.size = n
  rw [Duration.millis_ofMillis, Nat.mod_eq_of_lt hepoch]

/-- The system clock reads the whole milliseconds since its epoch. -/
theorem reading_withEpoch (hwall : wall.sinceUnixEpoch.millis < UInt64.size)
    (hepoch : n < UInt64.size) :
    (withEpoch (.ofMillis n)).reading wall = wall.millisSince n := by
  rw [reading, epochMillis_withEpoch hepoch, WallTime.unixMillis_eq hwall, WallTime.millisSince_eq]

/-- The comparison of words is a comparison of the full times. -/
theorem tryWithEpoch_eq (hwall : wall.sinceUnixEpoch.millis < UInt64.size)
    (hepoch : n < UInt64.size) :
    tryWithEpoch wall (.ofMillis n) =
      if wall.sinceUnixEpoch < .ofMillis n then .error .clockBeforeEpoch
      else .ok (withEpoch (.ofMillis n)) := by
  have hearlier : wall.unixMillis < (withEpoch (.ofMillis n)).epochMillis ↔
      wall.sinceUnixEpoch < .ofMillis n := by
    rw [epochMillis_withEpoch hepoch, WallTime.unixMillis_eq hwall, Duration.lt_ofMillis_iff]
  simp only [tryWithEpoch, hearlier]

/-- The clock is made from an epoch, in either way, while the wall clock shows the
given time. -/
def MadeAt (wall : WallTime) (epoch : Duration) (c : SystemClock) : Prop :=
  c = withEpoch epoch ∨ tryWithEpoch wall epoch = .ok c

/-- Either way gives the same system clock. -/
theorem MadeAt.eq_withEpoch {epoch : Duration} {c : SystemClock} (h : c.MadeAt wall epoch) :
    c = withEpoch epoch := by
  rcases h with h | h
  · exact h
  · simp only [tryWithEpoch] at h
    split at h
    · cases h
    · exact (Except.ok.inj h).symm

end SystemClock

/-! ### The monotonic clock -/

namespace MonotonicClock

/-- The monotonic clock starts from the whole milliseconds since its epoch. -/
theorem offset_withEpoch (hwall : wall.sinceUnixEpoch.millis < UInt64.size) :
    (withEpoch wall (.ofMillis n)).offset = wall.millisSince n := by
  show (wall.sinceUnixEpoch - .ofMillis n).millis % UInt64.size = _
  rw [Duration.millis_sub_ofMillis, WallTime.millisSince_eq]
  exact Nat.mod_eq_of_lt (Nat.lt_of_le_of_lt (Nat.sub_le _ _) hwall)

/-- The clock is made from an epoch, in either way, while the wall clock shows the
given time. -/
def MadeAt (wall : WallTime) (epoch : Duration) (c : MonotonicClock) : Prop :=
  c = withEpoch wall epoch ∨ tryWithEpoch wall epoch = .ok c

/-- Either way gives the same monotonic clock. -/
theorem MadeAt.eq_withEpoch {epoch : Duration} {c : MonotonicClock} (h : c.MadeAt wall epoch) :
    c = withEpoch wall epoch := by
  rcases h with h | h
  · exact h
  · unfold tryWithEpoch at h
    split at h
    · cases h
    · exact (Except.ok.inj h).symm

/-- Take a wall clock that has reached the epoch and goes on at the pace of the
stopwatch. From then on the monotonic clock reads what the system clock reads, or
one millisecond less. -/
theorem reading_le_system {d : Duration} {later : WallTime} (hstart : 0 ≤ wall.nanos)
    (hreached : .ofMillis n ≤ wall.sinceUnixEpoch) (hlater : later.nanos = wall.nanos + d.nanos)
    (hword : later.sinceUnixEpoch.millis < UInt64.size) (hepoch : n < UInt64.size) :
    (withEpoch wall (.ofMillis n)).reading d.millis
        ≤ (SystemClock.withEpoch (.ofMillis n)).reading later ∧
      (SystemClock.withEpoch (.ofMillis n)).reading later
        ≤ (withEpoch wall (.ofMillis n)).reading d.millis + 1 := by
  -- From 1970 on, what the wall clock shows is counted without a cut at zero.
  have hnanos : later.sinceUnixEpoch.nanos = wall.sinceUnixEpoch.nanos + d.nanos := by
    show later.nanos.toNat = wall.nanos.toNat + d.nanos
    omega
  have hwall : wall.sinceUnixEpoch.millis < UInt64.size := by
    refine Nat.lt_of_le_of_lt (Duration.millis_le_millis ?_) hword
    rw [Duration.le_iff, hnanos]
    exact Nat.le_add_right _ _
  rw [SystemClock.reading_withEpoch hword hepoch, reading, offset_withEpoch hwall]
  simp only [WallTime.millisSince_eq, Duration.millis, hnanos]
  simp only [Duration.le_iff, Duration.ofMillis] at hreached
  -- Two fractions of a millisecond make less than two, which is where the one
  -- comes from.
  simp only [Duration.nanosPerMilli] at hreached ⊢
  omega

end MonotonicClock

/-! ### A clock on a machine -/

/-- The clock of an epoch that is made while the wall clock and the stopwatch show
the given times. -/
def Clock.startedAt (wall : WallTime) (start : Instant) (epoch : Duration) : ClockKind → Clock
  | .system => .system (.withEpoch epoch)
  | .monotonic => .monotonic (.withEpoch wall epoch) start

namespace Machine

variable {ω : Type} {mc : Machine (StateM ω)}

/-- The stopwatch is looked at right after the wall clock, whichever clock is
asked for. -/
theorem makeClock_eq {w : ω} (hshown : (mc.wall w).1 = wall)
    (hwall : wall.sinceUnixEpoch.millis < UInt64.size) (hepoch : n < UInt64.size)
    (kind : ClockKind) :
    (mc.makeClock kind (.ofMillis n) w).1 =
      if wall.sinceUnixEpoch < .ofMillis n then .error .clockBeforeEpoch
      else .ok (.startedAt wall (mc.instant (mc.wall w).2).1 (.ofMillis n) kind) := by
  cases kind with
  | system =>
      show (SystemClock.tryWithEpoch (mc.wall w).1 (.ofMillis n)).map Clock.system = _
      rw [hshown, SystemClock.tryWithEpoch_eq hwall hepoch]
      split <;> rfl
  | monotonic =>
      show (MonotonicClock.tryWithEpoch (mc.wall w).1 (.ofMillis n)).map _ = _
      rw [hshown, MonotonicClock.tryWithEpoch]
      split <;> rfl

/-- As long as nothing has moved, either clock reads the milliseconds since the
epoch. -/
theorem read_startedAt {v : ω} {start : Instant} (hshown : (mc.wall v).1 = wall)
    (hinstant : (mc.instant v).1 = start)
    (hwall : wall.sinceUnixEpoch.millis < UInt64.size) (hepoch : n < UInt64.size)
    (kind : ClockKind) :
    (mc.read (.startedAt wall start (.ofMillis n) kind) v).1 = .millis (wall.millisSince n) := by
  cases kind with
  | system =>
      show Reading.millis ((SystemClock.withEpoch (.ofMillis n)).reading (mc.wall v).1) = _
      rw [hshown, SystemClock.reading_withEpoch hwall hepoch]
  | monotonic =>
      show Reading.millis ((MonotonicClock.withEpoch wall (.ofMillis n)).offset
        + ((mc.instant v).1.since start).millis) = _
      -- The stopwatch still shows the start, so nothing is added to the
      -- offset.
      have helapsed : (start.since start).millis = 0 := by
        simp [Duration.millis]
      rw [hinstant, helapsed, MonotonicClock.offset_withEpoch hwall, Nat.add_zero]

end Machine

/-- A check fails with its own reason. -/
private theorem refused_iff {α : Type} {p : Prop} [Decidable p] {a : α} {reason e : Error} :
    (if p then .error reason else .ok a : Except Error α) = .error e ↔ p ∧ e = reason := by
  by_cases h : p
  · rw [if_pos h]
    exact ⟨fun heq => ⟨h, (Except.error.inj heq).symm⟩, fun heq => heq.2 ▸ rfl⟩
  · rw [if_neg h]
    exact ⟨nofun, fun heq => absurd heq.1 h⟩

/-- Take a point on the wall clock and an epoch in whole milliseconds, both within
the range of a word. Each clock refuses the epoch exactly if it lies ahead, to the
nanosecond, and with the same error. Made in either way, the system clock reads
what the monotonic clock starts from: the whole milliseconds since the epoch.

On a machine the kind of clock makes no difference, then. The epoch is refused or
not, and the first reading, when nothing has moved since, is the same. -/
theorem clocks_start_alike (hwall : wall.sinceUnixEpoch.millis < UInt64.size)
    (hepoch : n < UInt64.size) :
    (∀ e, SystemClock.tryWithEpoch wall (.ofMillis n) = .error e ↔
      wall.sinceUnixEpoch < .ofMillis n ∧ e = .clockBeforeEpoch) ∧
    (∀ e, MonotonicClock.tryWithEpoch wall (.ofMillis n) = .error e ↔
      wall.sinceUnixEpoch < .ofMillis n ∧ e = .clockBeforeEpoch) ∧
    (∀ c : SystemClock, c.MadeAt wall (.ofMillis n) → c.reading wall = wall.millisSince n) ∧
    (∀ c : MonotonicClock, c.MadeAt wall (.ofMillis n) → c.offset = wall.millisSince n) ∧
    ∀ {ω : Type} (mc : Machine (StateM ω)) (w : ω), (mc.wall w).1 = wall → ∀ kind : ClockKind,
      (∀ e, (mc.makeClock kind (.ofMillis n) w).1 = .error e ↔
        wall.sinceUnixEpoch < .ofMillis n ∧ e = .clockBeforeEpoch) ∧
      ∀ clock, (mc.makeClock kind (.ofMillis n) w).1 = .ok clock →
        ∀ v, (mc.wall v).1 = wall → (mc.instant v).1 = (mc.instant (mc.wall w).2).1 →
          (mc.read clock v).1 = .millis (wall.millisSince n) := by
  refine ⟨fun e => ?_, fun e => refused_iff, fun c hc => ?_, fun c hc => ?_,
    fun mc w hshown kind => ⟨fun e => ?_, fun clock hmade v hstill hinstant => ?_⟩⟩
  · rw [SystemClock.tryWithEpoch_eq hwall hepoch]
    exact refused_iff
  · rw [hc.eq_withEpoch, SystemClock.reading_withEpoch hwall hepoch]
  · rw [hc.eq_withEpoch, MonotonicClock.offset_withEpoch hwall]
  · rw [Machine.makeClock_eq hshown hwall hepoch]
    exact refused_iff
  · rw [Machine.makeClock_eq hshown hwall hepoch] at hmade
    split at hmade
    · cases hmade
    · cases hmade
      exact Machine.read_startedAt hstill hinstant hwall hepoch kind

/-- An epoch of five milliseconds. One nanosecond before it both clocks refuse it,
and one nanosecond before the eighth millisecond both read two, also on a machine. -/
theorem clocks_start_alike_nanosecondBefore :
    let tape : Tape := { wall := fun _ => ⟨7999999⟩, stopwatch := fun _ => ⟨600⟩ }
    SystemClock.tryWithEpoch ⟨4999999⟩ (.ofMillis 5) = .error .clockBeforeEpoch ∧
    MonotonicClock.tryWithEpoch ⟨4999999⟩ (.ofMillis 5) = .error .clockBeforeEpoch ∧
    (SystemClock.withEpoch (.ofMillis 5)).reading ⟨7999999⟩ = 2 ∧
    (MonotonicClock.withEpoch ⟨7999999⟩ (.ofMillis 5)).offset = 2 ∧
    ∀ kind clock, (Tape.machine.makeClock kind (.ofMillis 5) tape).1 = .ok clock →
      (Tape.machine.read clock tape).1 = .millis 2 := by
  intro tape
  have hepoch : 5 < UInt64.size := by decide
  have hbefore : (WallTime.mk 4999999).sinceUnixEpoch.millis < UInt64.size := by decide
  have hafter : (WallTime.mk 7999999).sinceUnixEpoch.millis < UInt64.size := by decide
  obtain ⟨hsystem, hmonotonic, -⟩ := clocks_start_alike hbefore hepoch
  obtain ⟨-, -, hreading, hoffset, hmachine⟩ := clocks_start_alike hafter hepoch
  refine ⟨(hsystem _).mpr ⟨by decide, rfl⟩, (hmonotonic _).mpr ⟨by decide, rfl⟩,
    hreading _ (.inl rfl), hoffset _ (.inl rfl), fun kind clock hmade => ?_⟩
  exact (hmachine Tape.machine tape rfl kind).2 clock hmade tape rfl rfl

/-- An epoch with a fraction that lies ahead within the millisecond. -/
example :
    SystemClock.tryWithEpoch ⟨5200000⟩ ⟨5500000⟩ = .ok ⟨5⟩ ∧
    MonotonicClock.tryWithEpoch ⟨5200000⟩ ⟨5500000⟩ = .error .clockBeforeEpoch :=
  ⟨rfl, rfl⟩

end Snowflake
