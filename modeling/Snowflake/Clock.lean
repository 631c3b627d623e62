import Snowflake.Error
import Snowflake.Instant

/-!
# `Snowflake.Clock`: milliseconds since an epoch

Two clocks give readings to a generator. The *system clock* looks at the wall
clock each time, so it follows its jumps. The *monotonic clock* looks at it
once, when it is made, and from then on counts the milliseconds that a ticker
has stored; it never goes backward.

Both are made in two ways: one accepts an epoch in the future and reads zero
until then, the other refuses it.
-/

set_option autoImplicit false

namespace Snowflake

/-- The epoch that readings count from unless another one is configured, the
start of 2020. -/
def defaultEpoch : Duration := .ofMillis 1577836800000

/-- A clock that looks at the wall clock each time. -/
structure SystemClock where
  /-- The epoch's Unix milliseconds, in a 64-bit word. -/
  epochMillis : Nat
deriving DecidableEq, Repr

namespace SystemClock

/-- The clock of an epoch, in the future or not. -/
def withEpoch (epoch : Duration) : SystemClock := ⟨epoch.millis % UInt64.size⟩

/-- The clock of an epoch that the wall clock has reached. -/
def tryWithEpoch (wall : WallTime) (epoch : Duration) : Except Error SystemClock :=
  -- The comparison is between words of milliseconds, as the readings are.
  let clock := withEpoch epoch
  if wall.unixMillis < clock.epochMillis then .error .clockBeforeEpoch else .ok clock

/-- The epoch of a clock. -/
def epoch (c : SystemClock) : Duration := .ofMillis c.epochMillis

/-- Milliseconds since the epoch, zero before it. -/
def reading (c : SystemClock) (wall : WallTime) : Nat := wall.unixMillis - c.epochMillis

end SystemClock

/-- A clock that counts on from one look at the wall clock. -/
structure MonotonicClock where
  /-- Milliseconds between the epoch and the making of the clock. -/
  offset : Nat
deriving DecidableEq, Repr

namespace MonotonicClock

/-- The clock of an epoch, in the future or not. -/
def withEpoch (wall : WallTime) (epoch : Duration) : MonotonicClock :=
  ⟨(wall.sinceUnixEpoch - epoch).millis % UInt64.size⟩

/-- The clock of an epoch that the wall clock has reached, to the
nanosecond. -/
def tryWithEpoch (wall : WallTime) (epoch : Duration) : Except Error MonotonicClock :=
  if wall.sinceUnixEpoch < epoch then .error .clockBeforeEpoch else .ok (withEpoch wall epoch)

/-- Milliseconds since the epoch, from the milliseconds that the ticker stored
last. -/
def reading (c : MonotonicClock) (stored : Nat) : Nat := c.offset + stored

end MonotonicClock

/-- The ticker of a monotonic clock: the millisecond it waits for, and the one
it stored last. -/
structure Ticker where
  /-- The millisecond since the start that the next store waits for. -/
  due : Nat := 0
  /-- The milliseconds since the start that readers see. -/
  stored : Nat := 0
deriving DecidableEq, Repr, Inhabited

namespace Ticker

/-- The sleep that a ticker takes at the given time since its start: up to the
due millisecond, none when it has passed. -/
def pause? (t : Ticker) (elapsed : Duration) : Option Duration :=
  if elapsed < .ofMillis t.due then some (.ofMillis t.due - elapsed) else none

/-- The ticker after it stored the whole milliseconds of a time since its
start, in a 64-bit word. The next one is due when the following millisecond
begins. -/
def store (_ : Ticker) (elapsed : Duration) : Ticker where
  due := elapsed.millis % UInt64.size + 1
  stored := elapsed.millis % UInt64.size

end Ticker

end Snowflake
