import Snowflake.Cli.Arguments
import Snowflake.Cli.Failure

/-!
# `Snowflake.Cli.Config`: settings that can be worked with

`Config.ofArguments` checks what the command line and the variables ask for,
in a fixed order: the worker number, that issuing has a source for it at all,
that every timestamp under the epoch is a Unix time of 64 bits, and that a
call may wait. What it lets through has no such problem left.
-/

set_option autoImplicit false

namespace Snowflake.Cli

/-- What a run works with. -/
structure Config where
  /-- What is to be done. -/
  command : Command
  /-- Where the worker number comes from, if there is such a place. -/
  source : Option WorkerSource
  /-- The epoch. -/
  epoch : Duration
  /-- The bounds of a call. -/
  options : Options
  /-- How callers share the generator. -/
  generator : Kind
  /-- Which clock is read. -/
  clock : ClockKind
deriving DecidableEq, Repr

namespace Arguments

/-- The worker source that is asked for. A fixed number is checked here, the
other sources when they are used. -/
def source (a : Arguments) : Except ConfigError (Option WorkerSource) :=
  match a.workerIdSource with
  | .fixed =>
    match a.workerId with
    | none => .ok none
    | some value =>
      match WorkerId.new value with
      | .ok worker => .ok (some (.fixed worker))
      | .error e => .error (.worker e)
  | .env => .ok (some (.fromEnv WorkerSource.defaultVariable))
  | .ordinal => .ok (a.hostname.map fun hostname => .ordinal hostname a.ordinalOffset)

/-- Identifiers are to be issued. -/
def generates (a : Arguments) : Bool :=
  match a.command with
  | .generate _ _ => true
  | .decode _ => false

/-- Every timestamp under the epoch is a Unix time of 64 bits. -/
def hasTimestampRoom (a : Arguments) : Bool :=
  decide (a.epochMillis + Flake.maxTimestamp < UInt64.size)

/-- The bounds that are asked for. -/
def options (a : Arguments) : Options where
  driftPolicy :=
    match a.driftPolicy with
    | .fail => .fail
    | .wait => .wait (.ofMillis a.maxDriftMillis)
  maxWait := .ofMillis a.maxWaitMillis

end Arguments

/-- The error of a source that is not there. -/
def ConfigError.missing : SourceKind → ConfigError
  | .ordinal => .missingHostname
  | _ => .missingWorkerId

/-- Checks what is asked for. -/
def Config.ofArguments (a : Arguments) : Except ConfigError Config := do
  let source ← a.source
  -- Taking an identifier apart needs no worker.
  if source.isNone && a.generates then throw (.missing a.workerIdSource)
  if !a.hasTimestampRoom then throw (.epochTooLate a.epochMillis)
  if a.maxWaitMillis = 0 then throw .noWait
  return {
    command := a.command
    source := source
    epoch := .ofMillis a.epochMillis
    options := a.options
    generator := a.generator
    clock := a.clock }

end Snowflake.Cli
