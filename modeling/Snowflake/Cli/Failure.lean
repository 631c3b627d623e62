import Snowflake.Poll
import Snowflake.Worker.Source

/-!
# `Snowflake.Cli.Failure`: what a run reports when it ends early

A failure is reported as a chain of sentences, from what was tried to why it
did not work. The chain is written on one line for a log, or laid out in a
report at the end of the process.
-/

set_option autoImplicit false

namespace Snowflake.Cli

open Text

/-- Why settings cannot be worked with. -/
inductive ConfigError
  /-- The worker number is none. -/
  | worker (e : Error)
  /-- No worker number is set. -/
  | missingWorkerId
  /-- No host name is set. -/
  | missingHostname
  /-- Some timestamp under the epoch is no Unix time of 64 bits. -/
  | epochTooLate (epochMillis : Nat)
  /-- A call may not wait at all. -/
  | noWait
deriving DecidableEq, Repr

/-- Why a run ends early. -/
inductive Failure
  /-- There is no place that the worker number comes from. -/
  | noSource
  /-- The place gives no worker number. -/
  | unresolved (source : WorkerSource) (e : Error)
  /-- The clock cannot be made. -/
  | clock (e : Error)
  /-- An identifier was not issued. -/
  | generation (e : Error)
  /-- A text is no identifier. -/
  | notAnId (text : String) (e : Error)
  /-- A caller panicked. -/
  | panic (p : Panic)
deriving DecidableEq, Repr

/-- A chain of sentences, from what was tried to why it did not work. -/
structure Report where
  /-- What was tried, the outermost first. -/
  contexts : List String := []
  /-- Why it did not work. -/
  cause : String
  /-- The error behind the last sentence, when it is one of identifiers and
  workers. -/
  error? : Option Error := none
deriving DecidableEq, Repr

namespace Report

/-- The report of an error behind what was tried. -/
def ofError (contexts : List String) (e : Error) : Report := ⟨contexts, e.message, some e⟩

/-- The sentences on one line. -/
def line (r : Report) : String := ": ".intercalate (r.contexts ++ [r.cause])

/-- A cause with its number, when there are several. -/
def numbered (i : Nat) (text : String) : String :=
  let n := Decimal.digits i
  "\n" ++ String.ofList (List.replicate (5 - n.length) ' ' ++ n) ++ ": " ++ text

/-- The causes below the first sentence. -/
def causesText : List String → String
  | [] => ""
  | [cause] => "\n\nCaused by:\n    " ++ cause
  | causes => "\n\nCaused by:" ++ String.join (causes.mapIdx numbered)

/-- The sentences below each other, as a process ends with them. -/
def text (r : Report) : String :=
  match r.contexts with
  | [] => "Error: " ++ r.cause ++ "\n"
  | top :: rest => "Error: " ++ top ++ causesText (rest ++ [r.cause]) ++ "\n"

end Report

/-- The report of settings that cannot be worked with. -/
def ConfigError.report : ConfigError → Report
  | worker e => .ofError [] e
  | missingWorkerId => { cause := "WORKER_ID must be set when WORKER_ID_SOURCE is \x60static\x60" }
  | missingHostname => { cause := "HOSTNAME must be set when WORKER_ID_SOURCE is \x60ordinal\x60" }
  | epochTooLate n =>
    { cause := "EPOCH_MS " ++ Decimal.text n ++ " leaves no room for the 41-bit timestamp range" }
  | noWait => { cause := "MAX_WAIT_MS must be greater than 0" }

/-- The report of a run that ended early. -/
def Failure.report : Failure → Report
  | noSource => { cause := "no worker id source configured" }
  | unresolved source e => .ofError ["failed to resolve worker id from " ++ source.describe] e
  | clock e => .ofError [] e
  | generation e => .ofError ["failed to generate id"] e
  | notAnId text e => .ofError [Quoted.text text ++ " is not a valid id"] e
  | panic p => { cause := p.message }

end Snowflake.Cli
