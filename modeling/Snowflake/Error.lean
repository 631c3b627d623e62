import Snowflake.Duration
import Snowflake.Text.Quoted

/-!
# `Snowflake.Error`: why no identifier was issued or read

Each constructor is one cause. `message` is the sentence shown for it,
`describe` the structured form that names the cause and its fields, and
`isRetryable` says whether the same call may succeed later.
-/

set_option autoImplicit false

namespace Snowflake

/-- Why a worker could not be settled on, an identifier issued, or a text read
as one. -/
inductive Error
  /-- The worker number is above the largest one. -/
  | invalidWorkerId (value max : Nat)
  /-- The place that should hold the worker number holds none. -/
  | workerIdUnavailable (reason : String)
  /-- The wall clock is earlier than the epoch. -/
  | clockBeforeEpoch
  /-- The clock is behind the last issued timestamp, by so many
  milliseconds. -/
  | clockMovedBackward (drift : Nat)
  /-- The call waited for its whole budget. -/
  | generationTimeout (waited : Duration)
  /-- The clock is past the last timestamp that fits. -/
  | timestampOverflow (timestamp : Nat)
  /-- A caller panicked while it held the lock. -/
  | lockPoisoned
  /-- The value is no identifier. -/
  | invalidId (reason : String)
deriving DecidableEq, Repr

namespace Error

open Text

/-- The sentence shown for an error. -/
def message : Error → String
  | invalidWorkerId value max =>
    "worker id " ++ Decimal.text value ++ " is out of range (expected 0..="
      ++ Decimal.text max ++ ")"
  | workerIdUnavailable reason => "worker id unavailable: " ++ reason
  | clockBeforeEpoch => "system clock is earlier than the configured epoch"
  | clockMovedBackward drift => "clock moved backward by " ++ Decimal.text drift ++ "ms"
  | generationTimeout waited => "gave up generating an id after waiting " ++ waited.text
  | timestampOverflow timestamp =>
    "timestamp " ++ Decimal.text timestamp ++ "ms exceeds the 41-bit timestamp range"
  | lockPoisoned => "generator lock poisoned"
  | invalidId reason => "invalid id: " ++ reason

/-- A name with fields behind it in braces. -/
def fieldsText (name : String) (fields : List (String × String)) : String :=
  name ++ " \x7b " ++ ", ".intercalate (fields.map fun f => f.1 ++ ": " ++ f.2) ++ " \x7d"

/-- An error by the name of its cause and the values of its fields. -/
def describe : Error → String
  | invalidWorkerId value max =>
    fieldsText "InvalidWorkerId" [("value", Decimal.text value), ("max", Decimal.text max)]
  | workerIdUnavailable reason => fieldsText "WorkerIdUnavailable" [("reason", Quoted.text reason)]
  | clockBeforeEpoch => "ClockBeforeEpoch"
  | clockMovedBackward drift => fieldsText "ClockMovedBackward" [("drift_ms", Decimal.text drift)]
  | generationTimeout waited => fieldsText "GenerationTimeout" [("waited", waited.text)]
  | timestampOverflow timestamp =>
    fieldsText "TimestampOverflow" [("timestamp", Decimal.text timestamp)]
  | lockPoisoned => "LockPoisoned"
  | invalidId reason => fieldsText "InvalidId" [("reason", Quoted.text reason)]

/-- The clock may catch up before the next call: only the two errors about
waiting are worth a retry. -/
def isRetryable : Error → Bool
  | clockMovedBackward _ => true
  | generationTimeout _ => true
  | _ => false

end Error

/-- Another reason for a failure changes no success. -/
theorem mapError_eq_ok_iff {ε δ α : Type} {g : ε → δ} {r : Except ε α} {a : α} :
    r.mapError g = .ok a ↔ r = .ok a := by
  cases r with
  | error e => exact iff_of_false nofun nofun
  | ok b => exact ⟨fun h => congrArg Except.ok (Except.ok.inj h), fun h => congrArg _ h⟩

end Snowflake
