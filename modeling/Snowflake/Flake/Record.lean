import Snowflake.Calendar
import Snowflake.Flake
import Snowflake.Json.Printer

/-!
# `Snowflake.Flake.Record`: an identifier taken apart

A record shows an identifier with its fields and, under the epoch it was
issued with, the point in time of its timestamp. `toJson` is its written form.
The identifier stands in it as a string, because its readers may lose digits
of a large number.
-/

set_option autoImplicit false

namespace Snowflake

/-- An identifier and what it says. -/
structure Record where
  /-- The identifier. -/
  id : Flake
  /-- Milliseconds since the epoch. -/
  timestamp : Nat
  /-- The Unix time in milliseconds, if it fits into 64 bits. -/
  unixMillis : Option Nat
  /-- The same as date and time, if the calendar reaches so far. -/
  time : Option String
  /-- The worker that issued it. -/
  worker : Nat
  /-- Its place among the identifiers of one millisecond. -/
  sequence : Nat
deriving DecidableEq, Repr

namespace Record

/-- The record of an identifier that counts from an epoch. -/
def ofFlake (id : Flake) (epoch : Duration) : Record where
  id := id
  timestamp := id.timestamp
  unixMillis := id.unixMillis? epoch
  time := (id.unixMillis? epoch).bind Calendar.stamp?
  worker := id.worker.val
  sequence := id.sequence

/-- The members of the written form. -/
def toJson (r : Record) : Json :=
  .object
    [("id", .string r.id.text),
     ("timestamp", .ofNat r.timestamp),
     ("unix_ms", .ofOption .ofNat r.unixMillis),
     ("time", .ofOption .string r.time),
     ("worker_id", .ofNat r.worker),
     ("sequence", .ofNat r.sequence)]

end Record

end Snowflake
