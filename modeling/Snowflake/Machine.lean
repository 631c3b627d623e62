import Snowflake.Clock
import Snowflake.Generate
import Snowflake.Generator

/-!
# `Snowflake.Machine`: what a program reads and does on its computer

A program that issues identifiers reads the wall clock and a stopwatch, gives
up the processor, sleeps and writes text. `Machine` is that list, over
whatever effects it is run with. A clock is made on a machine from an epoch,
and a generator that is owned by one caller is polled with the readings of
such a clock.

`Tape` is a machine whose clocks are written down beforehand: what they show
at each look is a sequence, and everything that happens is noted in order. A
program run on a tape is a plain function of it.
-/

set_option autoImplicit false

namespace Snowflake

/-- What a program reads and does on its computer. -/
structure Machine (m : Type → Type) where
  /-- Looks at the wall clock. -/
  wall : m WallTime
  /-- Looks at the stopwatch. -/
  instant : m Instant
  /-- Gives up the processor for a moment. -/
  yield : m Unit
  /-- Sleeps. -/
  sleep : Duration → m Unit
  /-- Writes text to the output. -/
  write : String → m Unit

/-- Which clock a generator reads. -/
inductive ClockKind
  /-- The wall clock, each time. -/
  | system
  /-- A stopwatch, set by the wall clock once. -/
  | monotonic
deriving DecidableEq, Repr

/-- A clock at work. -/
inductive Clock
  /-- The wall clock. -/
  | system (c : SystemClock)
  /-- The stopwatch, and the instant it was set. -/
  | monotonic (c : MonotonicClock) (start : Instant)
deriving DecidableEq, Repr

namespace Machine

variable {m : Type → Type} [Monad m]

/-- Makes a clock that counts from an epoch, refused while the epoch lies in
the future. -/
def makeClock (mc : Machine m) (kind : ClockKind) (epoch : Duration) : m (Except Error Clock) := do
  -- The wall clock is looked at once, for the check and for the start alike.
  let wall ← mc.wall
  match kind with
  | .system => return (SystemClock.tryWithEpoch wall epoch).map .system
  | .monotonic =>
    let start ← mc.instant
    return (MonotonicClock.tryWithEpoch wall epoch).map (.monotonic · start)

/-- Reads a clock. The monotonic one is read off the stopwatch, as if its ticker
were never late (`TickingClock.machine_reads_promptly`). -/
def read (mc : Machine m) : Clock → m Reading
  | .system c => return .millis (c.reading (← mc.wall))
  | .monotonic c start => return .millis (c.reading ((← mc.instant).since start).millis)

end Machine

/-- A poll of a generator that no other caller overlaps. A poisoned lock
answers before the clock is read. -/
def Generator.pollWith {m : Type → Type} [Monad m] (read : m Reading) :
    StateT Generator m PollResult :=
  fun g =>
    if g.cell.isPoisoned then return (.error (.error .lockPoisoned), g)
    else return g.poll (← read)

/-- The effects of a call on a machine: a generator that it owns, polled with
the readings given. -/
def Machine.effectsWith {m : Type → Type} [Monad m] (mc : Machine m) (read : m Reading) :
    Effects (StateT Generator m) where
  poll := Generator.pollWith read
  instant := StateT.lift mc.instant
  yield := StateT.lift mc.yield
  sleep d := StateT.lift (mc.sleep d)

/-- The effects of a call on a machine: a generator that it owns, polled with
the readings of a clock. -/
def Machine.effects {m : Type → Type} [Monad m] (mc : Machine m) (clock : Clock) :
    Effects (StateT Generator m) :=
  mc.effectsWith (mc.read clock)

/-- What happened on a tape. -/
inductive Event
  /-- The wall clock was looked at. -/
  | sawWall (t : WallTime)
  /-- The stopwatch was looked at. -/
  | sawInstant (t : Instant)
  /-- The generator's clock was read. -/
  | tookReading (r : Reading)
  /-- The processor was given up. -/
  | yielded
  /-- The program slept. -/
  | slept (d : Duration)
  /-- Text was written. -/
  | wrote (text : String)
deriving DecidableEq, Repr

/-- A machine with clocks written down beforehand. -/
structure Tape where
  /-- What the wall clock shows at each look. -/
  wall : Nat → WallTime
  /-- What the stopwatch shows at each look. -/
  stopwatch : Nat → Instant
  /-- What a clock of its own gives to a generator at each reading. -/
  readings : Nat → Reading := fun _ => .millis 0
  /-- How often the wall clock was looked at. -/
  wallLooks : Nat := 0
  /-- How often the stopwatch was looked at. -/
  stopwatchLooks : Nat := 0
  /-- How many readings were taken. -/
  readingsTaken : Nat := 0
  /-- What happened, the last thing first. -/
  events : List Event := []

namespace Tape

/-- A tape on which one more thing happened. -/
def note (t : Tape) (e : Event) : Tape := { t with events := e :: t.events }

/-- Looks at the wall clock. -/
def lookWall : StateM Tape WallTime := modifyGet fun t =>
  let seen := t.wall t.wallLooks
  (seen, { t.note (.sawWall seen) with wallLooks := t.wallLooks + 1 })

/-- Looks at the stopwatch. -/
def lookInstant : StateM Tape Instant := modifyGet fun t =>
  let seen := t.stopwatch t.stopwatchLooks
  (seen, { t.note (.sawInstant seen) with stopwatchLooks := t.stopwatchLooks + 1 })

/-- Takes the next reading of the clock of its own. -/
def takeReading : StateM Tape Reading := modifyGet fun t =>
  let r := t.readings t.readingsTaken
  (r, { t.note (.tookReading r) with readingsTaken := t.readingsTaken + 1 })

/-- The machine that plays a tape. -/
def machine : Machine (StateM Tape) where
  wall := lookWall
  instant := lookInstant
  yield := modify (·.note .yielded)
  sleep d := modify (·.note (.slept d))
  write text := modify (·.note (.wrote text))

/-- The effects of a call whose generator reads the tape's own clock. -/
def effects : Effects (StateT Generator (StateM Tape)) := machine.effectsWith takeReading

/-- The texts that were written, in order. -/
def texts (t : Tape) : List String :=
  t.events.reverse.filterMap fun
    | .wrote text => some text
    | _ => none

/-- All that was written. -/
def output (t : Tape) : String := String.join t.texts

end Tape

end Snowflake
