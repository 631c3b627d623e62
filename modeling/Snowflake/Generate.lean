import Snowflake.Wait

/-!
# `Snowflake.Generate`: a call that returns an identifier

A call polls a generator, and pauses as `Snowflake.Wait` says, until it has an
identifier or an error. The blocking call gives up the processor or sleeps;
the asynchronous one hands each pause to a sleep that its caller provides.
What a call touches outside itself is the record `Effects`, so that the same
call runs on a real clock and on one written down beforehand.

A clock that stands still may keep a call waiting for as long as its budget
lasts, whatever that is. The definitions therefore take the number of polls to
follow the call for, and answer `none` for a call that is still waiting after
them.
-/

set_option autoImplicit false

namespace Snowflake

/-- What a call touches outside itself. -/
structure Effects (m : Type → Type) where
  /-- Polls the generator. -/
  poll : m PollResult
  /-- Looks at the stopwatch. -/
  instant : m Instant
  /-- Gives up the processor for a moment. -/
  yield : m Unit
  /-- Sleeps. -/
  sleep : Duration → m Unit

/-- How one poll of a call ends. -/
inductive Round
  /-- The call ends. -/
  | finished (r : Except Fault Flake)
  /-- The call pauses and polls again. -/
  | pausing (b : Backoff)

/-- One poll of a call. The budget runs from the first poll that asks for a
pause, and the second part of the answer is that instant once there is one. -/
def round {m : Type → Type} [Monad m] (fx : Effects m) (o : Options) (started : Option Instant) :
    m (Round × Option Instant) := do
  match ← fx.poll with
  | .error f => return (.finished (.error f), started)
  | .ok status =>
    match o.demand status with
    | .finish r => return (.finished (r.mapError .error), started)
    | .pause b =>
      -- A call whose first poll gives an identifier never looks at the
      -- stopwatch.
      let start ← match started with
        | some t => pure t
        | none => fx.instant
      let now ← fx.instant
      match o.allow (now.since start) b with
      | .error e => return (.finished (.error (.error e)), some start)
      | .ok b => return (.pausing b, some start)

/-- The blocking call, from the instant its budget runs from. -/
def generateFrom {m : Type → Type} [Monad m] (fx : Effects m) (o : Options) :
    Nat → Option Instant → m (Option (Except Fault Flake))
  | 0, _ => return none
  | polls + 1, started => do
    match ← round fx o started with
    | (.finished r, _) => return some r
    | (.pausing (.spin _), started) =>
      fx.yield
      generateFrom fx o polls started
    | (.pausing (.sleep d), started) =>
      fx.sleep d
      generateFrom fx o polls started

/-- The blocking call, followed for so many polls. -/
def generate {m : Type → Type} [Monad m] (fx : Effects m) (o : Options) (polls : Nat) :
    m (Option (Except Fault Flake)) :=
  generateFrom fx o polls none

/-- The blocking call for an identifier as a signed integer. -/
def generateInt64 {m : Type → Type} [Monad m] (fx : Effects m) (o : Options) (polls : Nat) :
    m (Option (Except Fault Int64)) :=
  return (← generate fx o polls).map fun r => r.map Flake.toInt64

/-- The asynchronous call, from the instant its budget runs from. -/
def generateAsyncFrom {m : Type → Type} [Monad m] (fx : Effects m)
    (sleepFor : Duration → m Unit) (o : Options) :
    Nat → Option Instant → m (Option (Except Fault Flake))
  | 0, _ => return none
  | polls + 1, started => do
    match ← round fx o started with
    | (.finished r, _) => return some r
    | (.pausing b, started) =>
      sleepFor b.length
      generateAsyncFrom fx sleepFor o polls started

/-- The asynchronous call over the sleep that its caller provides, followed
for so many polls. -/
def generateAsync {m : Type → Type} [Monad m] (fx : Effects m) (sleepFor : Duration → m Unit)
    (o : Options) (polls : Nat) : m (Option (Except Fault Flake)) :=
  generateAsyncFrom fx sleepFor o polls none

end Snowflake
