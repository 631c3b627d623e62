import Snowflake.Cli.Config
import Snowflake.Flake.Record

/-!
# `Snowflake.Cli.Run`: doing what is asked for

`mint` issues identifiers and writes each on a line of its own, as soon as it
is there. An identifier that fails for a reason that may pass is tried again,
three times in all, with a pause in between that lets a clock that moved
backward catch up. `decode` writes the record of an identifier.

`run` does one or the other as its settings say. Before it issues anything it
settles the worker number and makes the clock; when either fails, nothing is
written.

A call that waits for a clock may wait for as long as its budget lasts. The
definitions follow every call for a number of polls that they are given, and
answer `none` if one is still waiting then.
-/

set_option autoImplicit false

namespace Snowflake.Cli

variable {m : Type → Type} [Monad m]

/-- The pause before a call that timed out is tried again. -/
def retryPause : Duration := .ofMillis 1

/-- The pause before a failed call is tried again: what a clock that moved
backward needs to catch up. -/
def backoff : Error → Duration
  | .clockMovedBackward drift => .ofMillis drift
  | _ => retryPause

/-- How often a call that failed is tried again. -/
def maxRetries : Nat := 2

/-- The failure of a call that gave no identifier. -/
def Failure.ofFault : Fault → Failure
  | .error e => .generation e
  | .panic p => .panic p

/-- Issues an identifier, with so many retries left. -/
def mintOne (fx : Effects m) (o : Options) (polls : Nat) : Nat → m (Option (Except Failure Flake))
  | 0 => return (← generate fx o polls).map fun r => r.mapError .ofFault
  | retries + 1 => do
    match ← generate fx o polls with
    | some (.error (.error e)) =>
      if e.isRetryable then
        fx.sleep (backoff e)
        mintOne fx o polls retries
      else return some (.error (.generation e))
    | r => return r.map fun r => r.mapError .ofFault

/-- An identifier in a format. -/
def Format.line (format : Format) (epoch : Duration) (id : Flake) : String :=
  match format with
  | .decimal => id.text
  | .padded => id.paddedText
  | .json => (Record.ofFlake id epoch).toJson.compact

/-- Issues identifiers, and writes each on a line. -/
def mint (fx : Effects m) (write : String → m Unit) (o : Options) (polls : Nat) (format : Format)
    (epoch : Duration) : Nat → m (Option (Except Failure Unit))
  | 0 => return some (.ok ())
  | count + 1 => do
    match ← mintOne fx o polls maxRetries with
    | none => return none
    | some (.error f) => return some (.error f)
    | some (.ok id) =>
      write (format.line epoch id ++ "\n")
      mint fx write o polls format epoch count

/-- The record of the identifier that a text spells, as it is written. -/
def decodeText (text : String) (epoch : Duration) : Except Failure String :=
  match Flake.parse text with
  | .ok id => .ok ((Record.ofFlake id epoch).toJson.indented ++ "\n")
  | .error e => .error (.notAnId text e)

/-- Writes the record of the identifier that a text spells. -/
def decode (write : String → m Unit) (text : String) (epoch : Duration) : m (Except Failure Unit) :=
  match decodeText text epoch with
  | .ok out => do
    write out
    return .ok ()
  | .error f => return .error f

/-- The worker that the settings lead to. -/
def Config.worker (c : Config) (env : Environment) : Except Failure WorkerId :=
  match c.source with
  | none => .error .noSource
  | some source => (source.resolve env).mapError (.unresolved source)

/-- Issues identifiers on a machine. -/
def Config.generate (mc : Machine m) (env : Environment) (polls : Nat) (c : Config) (count : Nat)
    (format : Format) : m (Option (Except Failure Unit)) := do
  match c.worker env with
  | .error f => return some (.error f)
  -- The worker comes first: when the clock cannot be made either, the worker's
  -- failure is the one reported.
  | .ok worker =>
    match ← mc.makeClock c.clock c.epoch with
    | .error e => return some (.error (.clock e))
    | .ok clock =>
      let write := fun text => StateT.lift (mc.write text)
      let minting := mint (mc.effects clock) write c.options polls format c.epoch count
      return (← minting.run (.new c.generator worker)).1

/-- Does what the settings say. -/
def Config.run (mc : Machine m) (env : Environment) (polls : Nat) (c : Config) :
    m (Option (Except Failure Unit)) :=
  match c.command with
  | .generate count format => c.generate mc env polls count format
  | .decode text => return some (← Cli.decode mc.write text c.epoch)

end Snowflake.Cli
