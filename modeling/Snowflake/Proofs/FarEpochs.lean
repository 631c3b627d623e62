import Mathlib.Algebra.Group.Nat.Defs
import Snowflake.Proofs.Startup

/-!
# `Snowflake.Proofs.FarEpochs`: epochs that a word cannot hold

An epoch may lie so far ahead that its milliseconds do not fit in 64 bits. The
monotonic clock compares lengths of time before it cuts anything off, so to it an
epoch that lies ahead is one that lies ahead, however far. The system clock keeps
the epoch's milliseconds in a word first, and what it compares and subtracts is
this remainder of them. So it is the clock of another epoch, one within the range
of a word (`SystemClock.withEpoch_eq`).

`future_epochs_refused` says what that means for an epoch in the future. The
system clock refuses it exactly if the remainder still lies ahead, and reads zero
exactly if the remainder has not passed. That is always so for an epoch within the
range. Beyond it there are epochs that are accepted millions of years too early, and
`future_epochs_refused_not_beyond_word` is about the first of them.
-/

set_option autoImplicit false

namespace Snowflake

variable {wall : WallTime} {epoch : Duration}

/-- A time that is longer by a millisecond has more whole milliseconds. -/
theorem Duration.millis_lt_millis {a b : Duration} (h : a + .ofMillis 1 ≤ b) :
    a.millis < b.millis := by
  simp only [le_iff, nanos_add, ofMillis] at h
  simp only [millis, nanosPerMilli] at h ⊢
  omega

/-- What is longer by a millisecond is longer. -/
theorem Duration.lt_of_add_ofMillis_le {a b : Duration} (h : a + .ofMillis 1 ≤ b) : a < b := by
  simp only [le_iff, lt_iff, nanos_add, ofMillis, nanosPerMilli] at h ⊢
  omega

namespace SystemClock

/-- The clock of an epoch is that of the epoch's remainder in a word. -/
theorem withEpoch_eq (epoch : Duration) :
    withEpoch epoch = withEpoch (.ofMillis (epoch.millis % UInt64.size)) := by
  simp [withEpoch]

/-- The system clock refuses an epoch exactly if the remainder of its
milliseconds lies ahead. -/
theorem tryWithEpoch_eq_remainder (hwall : wall.sinceUnixEpoch.millis < UInt64.size)
    (epoch : Duration) :
    tryWithEpoch wall epoch =
      if wall.sinceUnixEpoch.millis < epoch.millis % UInt64.size then .error .clockBeforeEpoch
      else .ok (withEpoch epoch) := by
  have hkept : epoch.millis % UInt64.size < UInt64.size := Nat.mod_lt _ (by decide)
  -- Nothing but the remainder is compared, and the remainder is within the
  -- range.
  have hsame : tryWithEpoch wall epoch
      = tryWithEpoch wall (.ofMillis (epoch.millis % UInt64.size)) := by
    simp only [tryWithEpoch, ← withEpoch_eq]
  rw [hsame, tryWithEpoch_eq hwall hkept, withEpoch_eq epoch]
  simp only [Duration.lt_ofMillis_iff]

/-- The system clock reads the milliseconds since the remainder of its epoch. -/
theorem reading_withEpoch_remainder (hwall : wall.sinceUnixEpoch.millis < UInt64.size)
    (epoch : Duration) :
    (withEpoch epoch).reading wall = wall.millisSince (epoch.millis % UInt64.size) := by
  rw [withEpoch_eq]
  exact reading_withEpoch hwall (Nat.mod_lt _ (by decide))

end SystemClock

namespace MonotonicClock

/-- The clock of an epoch that has not passed starts at zero, and reads what its
ticker has stored. -/
theorem reading_withEpoch_of_le (h : wall.sinceUnixEpoch ≤ epoch) (stored : Nat) :
    (withEpoch wall epoch).reading stored = stored := by
  have hnone : wall.sinceUnixEpoch.nanos - epoch.nanos = 0 := Nat.sub_eq_zero_of_le h
  simp [withEpoch, reading, Duration.millis, hnone]

/-- The monotonic clock refuses every epoch that lies ahead. -/
theorem tryWithEpoch_of_lt (h : wall.sinceUnixEpoch < epoch) :
    tryWithEpoch wall epoch = .error .clockBeforeEpoch :=
  if_pos h

end MonotonicClock

/-- No time is left up to a Unix time exactly if it has not passed. -/
theorem WallTime.millisSince_eq_zero_iff {n : Nat} :
    wall.millisSince n = 0 ↔ wall.sinceUnixEpoch.millis ≤ n := by
  rw [WallTime.millisSince_eq]
  exact Nat.sub_eq_zero_iff_le

/-- Take a point on the wall clock within the range of a word, and any epoch that is
later by a millisecond or more, however large. The monotonic clock refuses it. Made
all the same, it starts at zero and reads what its ticker stores.

The system clock looks at the remainder of the epoch's milliseconds that a word
keeps. It refuses the epoch exactly if the remainder is later than the wall clock,
and is made otherwise. Its reading is the time since the remainder, and is zero
exactly if the remainder is not earlier. An epoch within the range of a word is its
own remainder, so the system clock refuses it and reads zero, as the monotonic clock
does. -/
theorem future_epochs_refused (hwall : wall.sinceUnixEpoch.millis < UInt64.size)
    (hfuture : wall.sinceUnixEpoch + .ofMillis 1 ≤ epoch) :
    let remainder := epoch.millis % UInt64.size
    (MonotonicClock.tryWithEpoch wall epoch = .error .clockBeforeEpoch ∧
      ∀ stored, (MonotonicClock.withEpoch wall epoch).reading stored = stored) ∧
    (SystemClock.tryWithEpoch wall epoch = .error .clockBeforeEpoch ↔
      wall.sinceUnixEpoch.millis < remainder) ∧
    (SystemClock.tryWithEpoch wall epoch = .ok (.withEpoch epoch) ↔
      remainder ≤ wall.sinceUnixEpoch.millis) ∧
    (SystemClock.withEpoch epoch).reading wall = wall.millisSince remainder ∧
    ((SystemClock.withEpoch epoch).reading wall = 0 ↔
      wall.sinceUnixEpoch.millis ≤ remainder) ∧
    (epoch.millis < UInt64.size →
      SystemClock.tryWithEpoch wall epoch = .error .clockBeforeEpoch ∧
        (SystemClock.withEpoch epoch).reading wall = 0) := by
  intro remainder
  -- From here on the system clock is that of an epoch within the range.
  have hmade := SystemClock.tryWithEpoch_eq_remainder hwall epoch
  have hreading := SystemClock.reading_withEpoch_remainder hwall epoch
  have hrefused : SystemClock.tryWithEpoch wall epoch = .error .clockBeforeEpoch ↔
      wall.sinceUnixEpoch.millis < remainder := by
    rw [hmade]
    simp [remainder]
  have haccepted : SystemClock.tryWithEpoch wall epoch = .ok (.withEpoch epoch) ↔
      remainder ≤ wall.sinceUnixEpoch.millis := by
    rw [hmade]
    simp [remainder]
  have hzero : (SystemClock.withEpoch epoch).reading wall = 0 ↔
      wall.sinceUnixEpoch.millis ≤ remainder := by
    rw [hreading]
    exact WallTime.millisSince_eq_zero_iff
  have hahead := Duration.lt_of_add_ofMillis_le hfuture
  refine ⟨⟨MonotonicClock.tryWithEpoch_of_lt hahead, fun stored => ?_⟩, hrefused, haccepted,
    hreading, hzero, ?_⟩
  · exact MonotonicClock.reading_withEpoch_of_le (Nat.le_of_lt hahead) stored
  · intro hfits
    have hwhole : remainder = epoch.millis := Nat.mod_eq_of_lt hfits
    have hlater : wall.sinceUnixEpoch.millis < remainder := by
      rw [hwhole]
      exact Duration.millis_lt_millis hfuture
    exact ⟨hrefused.mpr hlater, hzero.mpr (Nat.le_of_lt hlater)⟩

/-- Five milliseconds more than a word holds. The remainder is refused for as long as
an epoch of five milliseconds is. -/
theorem future_epochs_refused_fiveMillisBeyond :
    let epoch : Duration := .ofMillis (2 ^ 64 + 5)
    SystemClock.tryWithEpoch ⟨4999999⟩ epoch = .error .clockBeforeEpoch ∧
    (SystemClock.withEpoch epoch).reading ⟨4999999⟩ = 0 ∧
    MonotonicClock.tryWithEpoch ⟨7000000⟩ epoch = .error .clockBeforeEpoch ∧
    SystemClock.tryWithEpoch ⟨7000000⟩ epoch = .ok (.withEpoch epoch) ∧
    (SystemClock.withEpoch epoch).reading ⟨7000000⟩ = 2 := by
  intro epoch
  have hbefore := @future_epochs_refused ⟨4999999⟩ epoch (by decide) (by decide)
  have hafter := @future_epochs_refused ⟨7000000⟩ epoch (by decide) (by decide)
  obtain ⟨-, hrefused, -, -, hzero, -⟩ := hbefore
  obtain ⟨⟨hmonotonic, -⟩, -, haccepted, hreading, -⟩ := hafter
  exact ⟨hrefused.mpr (by decide), hzero.mpr (by decide), hmonotonic, haccepted.mpr (by decide),
    hreading.trans (by decide)⟩

/-- The first epoch that a word cannot hold, in seconds and nanoseconds. -/
def beyondWord : Duration := .ofSeconds 18446744073709551 616000000

/-- The start of 2020. -/
def startOf2020 : WallTime := ⟨1577836800000000000⟩

/-- At the start of 2020 the first epoch that a word cannot hold lies more than five
hundred million years ahead. The system clock accepts it and counts from 1970, while
the monotonic clock refuses it and starts at zero. -/
theorem future_epochs_refused_not_beyond_word :
    beyondWord.millis = 2 ^ 64 ∧
    startOf2020.sinceUnixEpoch.millis < UInt64.size ∧
    startOf2020.sinceUnixEpoch + .ofMillis 1 ≤ beyondWord ∧
    SystemClock.tryWithEpoch startOf2020 beyondWord = .ok (.withEpoch beyondWord) ∧
    (SystemClock.withEpoch beyondWord).reading startOf2020 = 1577836800000 ∧
    MonotonicClock.tryWithEpoch startOf2020 beyondWord = .error .clockBeforeEpoch ∧
    (MonotonicClock.withEpoch startOf2020 beyondWord).reading 0 = 0 ∧
    ¬ (SystemClock.tryWithEpoch startOf2020 beyondWord = .error .clockBeforeEpoch ∧
      (SystemClock.withEpoch beyondWord).reading startOf2020 = 0) := by
  have haccepted :
      SystemClock.tryWithEpoch startOf2020 beyondWord = .ok (.withEpoch beyondWord) := rfl
  refine ⟨by decide, by decide, by decide, haccepted, by decide, rfl, by decide, ?_⟩
  intro ⟨hrefused, _⟩
  rw [haccepted] at hrefused
  cases hrefused

end Snowflake
