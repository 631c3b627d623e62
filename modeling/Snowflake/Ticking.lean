import Snowflake.Clock
import Snowflake.Poll

/-!
# `Snowflake.Ticking`: a monotonic clock at work

A monotonic clock is read through handles. All of them share the milliseconds
that its ticker has stored, and a handle can be cloned and dropped. The ticker
runs beside them in rounds. In each round it makes sure that there is still a
handle, looks at the stopwatch, sleeps if the due millisecond lies ahead, looks
again and stores what it saw.

`TickingClock` is a clock with its ticker and its handles, between a stopwatch
and a wall clock. `TickingClock.step` is one step of the ticker, of someone who
holds a handle, or of the time. A run is any list of steps that can be taken.
The ticker may be late by any time at each step, and a sleep may last longer
than it was asked for, but not shorter.
-/

set_option autoImplicit false

namespace Snowflake

namespace MonotonicClock

/-- What a reader gets from the milliseconds that the ticker stored last. A
sum that does not fit a 64-bit word is a panic. -/
def read (c : MonotonicClock) (stored : Nat) : Reading :=
  if c.reading stored < UInt64.size then .millis (c.reading stored) else .failure

end MonotonicClock

namespace TickingClock

/-- Where a ticker stands in its round. -/
inductive Stage
  /-- Between two rounds. -/
  | resting
  /-- Sure of the clock, before the first look at the stopwatch. -/
  | holding
  /-- Asleep, at least until the given instant. -/
  | asleep (wakes : Instant)
  /-- Before the second look at the stopwatch. -/
  | awake
  /-- With what the stopwatch showed, before it is stored. -/
  | looked (seen : Instant)
  /-- It has stopped for good. -/
  | stopped
deriving DecidableEq, Repr, Inhabited

/-- What can happen. -/
inductive Act
  /-- The ticker takes its next step. -/
  | tick
  /-- The clock is read through a handle. -/
  | read (handle : Nat)
  /-- A handle is cloned. -/
  | clone (handle : Nat)
  /-- A handle is dropped. -/
  | drop (handle : Nat)
  /-- Time goes on to an instant. -/
  | pass (now : Instant)
  /-- The wall clock is set. -/
  | setWall (wall : WallTime)
deriving DecidableEq, Repr

/-- What is noted of it. -/
inductive Note
  /-- The ticker stored milliseconds, after it saw an instant. -/
  | stored (seen : Instant) (ms : Nat)
  /-- A reader got a reading at an instant. -/
  | read (moment : Instant) (r : Reading)
deriving DecidableEq, Repr

end TickingClock

/-- A monotonic clock with its ticker and its handles. -/
structure TickingClock where
  /-- When it was made. -/
  start : Instant
  /-- What the stopwatch shows. -/
  now : Instant
  /-- What the wall clock shows. -/
  wall : WallTime
  /-- The ticker. -/
  ticker : Ticker := {}
  /-- Where the ticker stands. -/
  stage : TickingClock.Stage := .resting
  /-- The handles. -/
  handles : List MonotonicClock
deriving DecidableEq, Repr

namespace TickingClock

/-- A clock that has just been made. -/
def spawn (c : MonotonicClock) (start : Instant) (wall : WallTime) : TickingClock where
  start := start
  now := start
  wall := wall
  handles := [c]

/-- The time since the start. -/
def elapsed (s : TickingClock) : Duration := s.now.since s.start

/-- Where the first look at the stopwatch leads to. -/
def nap (s : TickingClock) : Stage :=
  (s.ticker.pause? s.elapsed).elim .awake fun d => .asleep (s.now.after d)

/-- What was seen is stored. After the last millisecond of a 64-bit word there
is none to wait for, and the ticker panics. -/
def store (s : TickingClock) (seen : Instant) : TickingClock :=
  let ticker := s.ticker.store (seen.since s.start)
  { s with ticker, stage := if ticker.due < UInt64.size then .resting else .stopped }

/-- The next step of the ticker. There is none while it has to sleep, and none
after it has stopped. -/
def tick (s : TickingClock) : Option (TickingClock × Option Note) :=
  match s.stage with
  | .resting =>
    -- The last handle takes the ticker with it.
    some ({ s with stage := if s.handles.isEmpty then .stopped else .holding }, none)
  | .holding => some ({ s with stage := s.nap }, none)
  | .asleep wakes =>
    if wakes.nanos ≤ s.now.nanos then some ({ s with stage := .awake }, none) else none
  | .awake => some ({ s with stage := .looked s.now }, none)
  | .looked seen => some (s.store seen, some (.stored seen (s.store seen).ticker.stored))
  | .stopped => none

/-- One step, with what is noted of it. There is none if the act cannot happen. -/
def step (s : TickingClock) : Act → Option (TickingClock × Option Note)
  | .tick => s.tick
  | .read handle =>
    s.handles[handle]?.map fun c => (s, some (.read s.now (c.read s.ticker.stored)))
  | .clone handle =>
    s.handles[handle]?.map fun c => ({ s with handles := s.handles ++ [c] }, none)
  | .drop handle =>
    s.handles[handle]?.map fun _ => ({ s with handles := s.handles.eraseIdx handle }, none)
  | .pass now => if s.now.nanos ≤ now.nanos then some ({ s with now }, none) else none
  | .setWall wall => some ({ s with wall }, none)

/-- A run: acts in the order in which they happen, with the notes of them. -/
def run (s : TickingClock) : List Act → Option (TickingClock × List Note)
  | [] => some (s, [])
  | act :: acts => do
    let (s, note) ← s.step act
    let (s, notes) ← run s acts
    return (s, note.toList ++ notes)

end TickingClock

end Snowflake
