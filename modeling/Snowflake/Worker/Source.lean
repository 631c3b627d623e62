import Snowflake.Environment
import Snowflake.Worker

/-!
# `Snowflake.Worker.Source`: where a process learns its worker number

The generator cannot see that two workers share a number; whoever deploys them
has to hand the numbers out. The number is fixed in the configuration, stands
in an environment variable, or is counted from the trailing ordinal of a host
name, as orchestrators number their pods.
-/

set_option autoImplicit false

namespace Snowflake

/-- Where a worker number comes from. -/
inductive WorkerSource
  /-- A number known beforehand. -/
  | fixed (worker : WorkerId)
  /-- The variable with the given name. -/
  | fromEnv (name : String)
  /-- The ordinal at the end of a host name, plus an offset. -/
  | ordinal (hostname : String) (offset : Nat)
deriving DecidableEq, Repr

namespace WorkerSource

open Text

/-- The variable that holds the worker number unless another one is named. -/
def defaultVariable : String := "WORKER_ID"

/-- The variable that holds the host name. -/
def hostnameVariable : String := "HOSTNAME"

/-- What stands behind the last occurrence of a character. -/
def afterLast? (sep : Char) (cs : List Char) : Option (List Char) :=
  if sep ∈ cs then some (cs.reverse.takeWhile (· ≠ sep)).reverse else none

/-- The numeral behind the last `-` of a host name. -/
def trailingOrdinal? (hostname : String) : Option Nat :=
  (afterLast? '-' hostname.toList).bind fun suffix => (Decimal.read suffix).toOption

/-- The worker of a host name: its trailing ordinal plus the offset, added
without wrapping. -/
def ofOrdinal (hostname : String) (offset : Nat) : Except Error WorkerId :=
  match trailingOrdinal? hostname with
  | none =>
    .error (.workerIdUnavailable
      ("hostname " ++ Quoted.text hostname ++ " has no trailing ordinal"))
  | some n =>
    if n + offset < UInt64.size then WorkerId.new (n + offset)
    else .error (.workerIdUnavailable ("ordinal " ++ Decimal.text n ++ " plus offset "
      ++ Decimal.text offset ++ " overflows u64"))

/-- The text of a variable, or the error that names it. -/
def variableText (env : Environment) (name : String) : Except Error String :=
  (env.text name).mapError fun e => .workerIdUnavailable (name ++ ": " ++ e.message)

/-- The worker number that a source gives in an environment. -/
def resolve (env : Environment) : WorkerSource → Except Error WorkerId
  | fixed worker => .ok worker
  | fromEnv name => variableText env name >>= WorkerId.parse
  | ordinal hostname offset => ofOrdinal hostname offset

/-- A source by the name of its kind and its fields. -/
def describe : WorkerSource → String
  | fixed worker => "Static(" ++ worker.describe ++ ")"
  | fromEnv name => "Env(" ++ Error.fieldsText "EnvWorkerId" [("var", Quoted.text name)] ++ ")"
  | ordinal hostname offset =>
    "Ordinal(" ++ Error.fieldsText "OrdinalWorkerId"
      [("hostname", Quoted.text hostname), ("offset", Decimal.text offset)] ++ ")"

end WorkerSource

end Snowflake
