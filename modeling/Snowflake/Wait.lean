import Snowflake.Instant
import Snowflake.Poll

/-!
# `Snowflake.Wait`: what a caller does about a poll without an identifier

A call polls until it has an identifier. Between two polls it pauses, and the
pauses are bounded: by the largest drift worth waiting out, and by a budget
for the whole call.

The rule has two halves, each a plain function. `Options.demand` looks at the
status of a poll: it ends the call, or asks for a pause. `Options.allow` looks
at the time waited so far: it ends the call once the budget is spent, or
grants the pause, cut to what is left.
-/

set_option autoImplicit false

namespace Snowflake

/-- What to do when the clock is behind the last issued timestamp. -/
inductive DriftPolicy
  /-- Fail at once. -/
  | fail
  /-- Wait until the clock catches up, if the drift is at most so long. -/
  | wait (maxDrift : Duration)
deriving DecidableEq, Repr

/-- The bounds of a call. -/
structure Options where
  /-- What to do when the clock is behind. -/
  driftPolicy : DriftPolicy := .fail
  /-- The time that one call may wait in all. -/
  maxWait : Duration := .ofMillis 50
deriving DecidableEq, Repr, Inhabited

/-- A pause between two polls. -/
inductive Backoff
  /-- The millisecond is used up; the next one is at most so far away. -/
  | spin (yieldFor : Duration)
  /-- The clock is behind and needs so long to catch up. -/
  | sleep (d : Duration)
deriving DecidableEq, Repr

/-- The length of a pause. -/
def Backoff.length : Backoff → Duration
  | .spin yieldFor => yieldFor
  | .sleep d => d

/-- What the status of a poll asks for. -/
inductive Demand
  /-- The call ends. -/
  | finish (r : Except Error Flake)
  /-- The call pauses, if the budget allows. -/
  | pause (b : Backoff)

namespace Options

/-- What a status asks for under the options. A drift is compared with the
largest one to the nanosecond. -/
def demand (o : Options) : Status → Demand
  | .ready id => .finish (.ok id)
  | .pending yieldFor => .pause (.spin (.ofMillis yieldFor))
  | .behind drift =>
    match o.driftPolicy with
    | .fail => .finish (.error (.clockMovedBackward drift))
    | .wait maxDrift =>
      if maxDrift < .ofMillis drift then .finish (.error (.clockMovedBackward drift))
      else .pause (.sleep (.ofMillis drift))

/-- A pause after so much waiting. Once the budget is spent the call ends;
until then a sleep is cut to what is left of it. -/
def allow (o : Options) (waited : Duration) (b : Backoff) : Except Error Backoff :=
  if o.maxWait ≤ waited then .error (.generationTimeout waited)
  else
    match b with
    -- A spin is as short as a pause can be, and is not cut.
    | .spin yieldFor => .ok (.spin yieldFor)
    | .sleep d => .ok (.sleep (min d (o.maxWait - waited)))

end Options

end Snowflake
