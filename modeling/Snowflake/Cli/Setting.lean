import Snowflake.Cli.Usage
import Snowflake.Environment
import Snowflake.Machine
import Snowflake.Worker.Source

/-!
# `Snowflake.Cli.Setting`: what can be set, and how it is written

A setting is given on the command line by an option, and most of them also by
an environment variable. `Setting.shared` lists them in the order in which their
variables are read. `Given` holds the values that one place gives, all of them
optional; `Given.put` reads a value from its text.
-/

set_option autoImplicit false

namespace Snowflake.Cli

open Text

/-- Something that can be set. -/
inductive Setting
  /-- The worker number. -/
  | workerId
  /-- Where the worker number comes from. -/
  | workerIdSource
  /-- The host name whose ordinal counts. -/
  | hostname
  /-- What is added to the ordinal. -/
  | ordinalOffset
  /-- The epoch. -/
  | epoch
  /-- What to do when the clock moves backward. -/
  | driftPolicy
  /-- The largest drift to wait out. -/
  | maxDrift
  /-- The time that one call may wait. -/
  | maxWait
  /-- How callers share the generator. -/
  | generator
  /-- Which clock is read. -/
  | clock
  /-- How many identifiers to issue. -/
  | count
  /-- How to write them. -/
  | format
deriving DecidableEq, Repr

/-- The kinds of worker sources. -/
inductive SourceKind
  /-- A number known beforehand. -/
  | fixed
  /-- A number in an environment variable. -/
  | env
  /-- The ordinal of the host name. -/
  | ordinal
deriving DecidableEq, Repr

/-- The ways to deal with a clock that moved backward. -/
inductive DriftKind
  /-- Fail. -/
  | fail
  /-- Wait. -/
  | wait
deriving DecidableEq, Repr

/-- How identifiers are written. -/
inductive Format
  /-- In decimal. -/
  | decimal
  /-- In twenty decimal digits. -/
  | padded
  /-- As a record on one line. -/
  | json
deriving DecidableEq, Repr

/-- The kind of source with a name. -/
def SourceKind.ofName? : String → Option SourceKind
  | "static" => some .fixed
  | "env" => some .env
  | "ordinal" => some .ordinal
  | _ => none

/-- The way to deal with drift that has a name. -/
def DriftKind.ofName? : String → Option DriftKind
  | "fail" => some .fail
  | "wait" => some .wait
  | _ => none

/-- The way of sharing a generator that has a name. -/
def generatorOfName? : String → Option Kind
  | "atomic" => some .lockFree
  | "lock" => some .locked
  | _ => none

/-- The clock with a name. -/
def clockOfName? : String → Option ClockKind
  | "system" => some .system
  | "monotonic" => some .monotonic
  | _ => none

/-- The format with a name. -/
def Format.ofName? : String → Option Format
  | "decimal" => some .decimal
  | "padded" => some .padded
  | "json" => some .json
  | _ => none

namespace Setting

/-- The name of the option that gives a setting. -/
def name : Setting → String
  | workerId => "worker-id"
  | workerIdSource => "worker-id-source"
  | hostname => "hostname"
  | ordinalOffset => "ordinal-offset"
  | epoch => "epoch-ms"
  | driftPolicy => "drift-policy"
  | maxDrift => "max-drift-ms"
  | maxWait => "max-wait-ms"
  | generator => "generator"
  | clock => "clock"
  | count => "count"
  | format => "format"

/-- The variable that gives a setting. -/
def envName? : Setting → Option String
  | workerId => some WorkerSource.defaultVariable
  | workerIdSource => some "WORKER_ID_SOURCE"
  | hostname => some WorkerSource.hostnameVariable
  | ordinalOffset => some "ORDINAL_OFFSET"
  | epoch => some "EPOCH_MS"
  | driftPolicy => some "CLOCK_DRIFT_POLICY"
  | maxDrift => some "MAX_DRIFT_MS"
  | maxWait => some "MAX_WAIT_MS"
  | generator => some "GENERATOR"
  | clock => some "CLOCK"
  | count => none
  | format => none

/-- The settings that every command has, in the order in which their variables
are read. -/
def shared : List Setting :=
  [workerId, workerIdSource, hostname, ordinalOffset, epoch, driftPolicy, maxDrift, maxWait,
   generator, clock]

/-- The settings of issuing identifiers. -/
def generating : List Setting := [count, format]

/-- The value is one of a few names. -/
def isChoice : Setting → Bool
  | workerIdSource | driftPolicy | generator | clock | format => true
  | _ => false

end Setting

/-- The values that one place gives. -/
structure Given where
  /-- The worker number. -/
  workerId : Option Nat := none
  /-- Where the worker number comes from. -/
  workerIdSource : Option SourceKind := none
  /-- The host name whose ordinal counts. -/
  hostname : Option String := none
  /-- What is added to the ordinal. -/
  ordinalOffset : Option Nat := none
  /-- The epoch in Unix milliseconds. -/
  epochMillis : Option Nat := none
  /-- What to do when the clock moves backward. -/
  driftPolicy : Option DriftKind := none
  /-- The largest drift to wait out, in milliseconds. -/
  maxDriftMillis : Option Nat := none
  /-- The time that one call may wait, in milliseconds. -/
  maxWaitMillis : Option Nat := none
  /-- How callers share the generator. -/
  generator : Option Kind := none
  /-- Which clock is read. -/
  clock : Option ClockKind := none
  /-- How many identifiers to issue. -/
  count : Option Nat := none
  /-- How to write them. -/
  format : Option Format := none
deriving DecidableEq, Repr

namespace Given

/-- A setting has a value. -/
def has (g : Given) : Setting → Bool
  | .workerId => g.workerId.isSome
  | .workerIdSource => g.workerIdSource.isSome
  | .hostname => g.hostname.isSome
  | .ordinalOffset => g.ordinalOffset.isSome
  | .epoch => g.epochMillis.isSome
  | .driftPolicy => g.driftPolicy.isSome
  | .maxDrift => g.maxDriftMillis.isSome
  | .maxWait => g.maxWaitMillis.isSome
  | .generator => g.generator.isSome
  | .clock => g.clock.isSome
  | .count => g.count.isSome
  | .format => g.format.isSome

/-- The number that a text spells. -/
def number (s : Setting) (text : String) : Except Usage Nat :=
  (Decimal.read text.toList).mapError fun _ => .badNumber s.name

/-- The choice that a text names. -/
def choice {α : Type} (s : Setting) (ofName? : String → Option α) (text : String) :
    Except Usage α :=
  match ofName? text with
  | some a => .ok a
  | none => .error (.unknownChoice s.name)

/-- Sets a setting to the value that a text spells. -/
def put (g : Given) (s : Setting) (text : String) : Except Usage Given :=
  match s with
  | .workerId => return { g with workerId := ← number s text }
  | .workerIdSource => return { g with workerIdSource := ← choice s SourceKind.ofName? text }
  | .hostname => return { g with hostname := text }
  | .ordinalOffset => return { g with ordinalOffset := ← number s text }
  | .epoch => return { g with epochMillis := ← number s text }
  | .driftPolicy => return { g with driftPolicy := ← choice s DriftKind.ofName? text }
  | .maxDrift => return { g with maxDriftMillis := ← number s text }
  | .maxWait => return { g with maxWaitMillis := ← number s text }
  | .generator => return { g with generator := ← choice s generatorOfName? text }
  | .clock => return { g with clock := ← choice s clockOfName? text }
  | .count => return { g with count := ← number s text }
  | .format => return { g with format := ← choice s Format.ofName? text }

/-- Sets a setting to the value of a variable. Octets that are no text are no
choice either. -/
def putVariable (g : Given) (s : Setting) : VarValue → Except Usage Given
  | .text text => g.put s text
  | .octets _ => .error (if s.isChoice then .unknownChoice s.name else .notText s.name)

/-- The values of two places, where the first place counts. -/
def orElse (g other : Given) : Given where
  workerId := g.workerId <|> other.workerId
  workerIdSource := g.workerIdSource <|> other.workerIdSource
  hostname := g.hostname <|> other.hostname
  ordinalOffset := g.ordinalOffset <|> other.ordinalOffset
  epochMillis := g.epochMillis <|> other.epochMillis
  driftPolicy := g.driftPolicy <|> other.driftPolicy
  maxDriftMillis := g.maxDriftMillis <|> other.maxDriftMillis
  maxWaitMillis := g.maxWaitMillis <|> other.maxWaitMillis
  generator := g.generator <|> other.generator
  clock := g.clock <|> other.clock
  count := g.count <|> other.count
  format := g.format <|> other.format

/-- The values that variables give to the settings that have none yet, in the
order of the settings. -/
def ofVariables (env : Environment) (g : Given) : Except Usage Given :=
  Setting.shared.foldlM (fun found s =>
    if g.has s then .ok found
    else
      match s.envName?.bind env.get? with
      | some value => found.putVariable s value
      | none => .ok found) {}

end Given

end Snowflake.Cli
