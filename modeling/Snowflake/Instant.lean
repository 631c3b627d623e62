import Snowflake.Duration

/-!
# `Snowflake.Instant`: points in time

Two kinds of points are read from outside. An `Instant` is a point on a
stopwatch that never runs backward; only the distance between two of them
means anything. A `WallTime` is what the wall clock shows, counted from the
start of 1970, and may jump either way.
-/

set_option autoImplicit false

namespace Snowflake

/-- A point on a stopwatch that never runs backward. -/
structure Instant where
  /-- Nanoseconds since the stopwatch was started. -/
  nanos : Nat
deriving DecidableEq, Repr, Inhabited

namespace Instant

/-- The time from one instant to a later one, nothing when the other one is
later. -/
def since (later earlier : Instant) : Duration := ⟨later.nanos - earlier.nanos⟩

/-- The instant so much later. -/
def after (t : Instant) (d : Duration) : Instant := ⟨t.nanos + d.nanos⟩

/-- A later instant gives no time, rather than a negative one. -/
@[simp] theorem nanos_since (a b : Instant) : (a.since b).nanos = a.nanos - b.nanos := rfl

/-- The time that was added is the time that has passed. -/
@[simp] theorem since_after (t : Instant) (d : Duration) : (t.after d).since t = d := by
  simp [since, after]

end Instant

/-- A point on the wall clock. -/
structure WallTime where
  /-- Nanoseconds since the start of 1970, negative before it. -/
  nanos : Int
deriving DecidableEq, Repr, Inhabited

namespace WallTime

/-- The time since the start of 1970; a point before it counts as the
start. -/
def sinceUnixEpoch (t : WallTime) : Duration := ⟨t.nanos.toNat⟩

/-- The whole milliseconds since the start of 1970, in a 64-bit word. -/
def unixMillis (t : WallTime) : Nat := t.sinceUnixEpoch.millis % UInt64.size

end WallTime

end Snowflake
