import Snowflake.Binary64.Shortest
import Snowflake.Calendar
import Snowflake.Clock
import Snowflake.Contention
import Snowflake.Flake.Json
import Snowflake.Flake.Record
import Snowflake.Flake.Tagged
import Snowflake.Generate
import Snowflake.Json.Reader
import Snowflake.Machine
import Snowflake.Main
import Snowflake.Proofs.Call
import Snowflake.Proofs.Contention.Ascent
import Snowflake.Proofs.Contention.FrozenClock
import Snowflake.Proofs.Contention.Linearization
import Snowflake.Proofs.Contention.Milliseconds
import Snowflake.Proofs.Contention.SteadyClock
import Snowflake.Proofs.Fleet
import Snowflake.Rehearsal
import Snowflake.Text.Alphanumeric
import Snowflake.Worker.Source
import Snowflake.Proofs.Contention.Alone
import Snowflake.Proofs.Session
import Snowflake.Proofs.Traps
import Snowflake.Proofs.Lines
import Snowflake.Proofs.Lockstep
import Snowflake.Proofs.Poisoning
import Snowflake.Proofs.Resumption
import Snowflake.Proofs.Numerals
import Snowflake.Proofs.Ordering
import Snowflake.Proofs.Conversions
import Snowflake.Proofs.Scalars
import Snowflake.Proofs.Shapes
import Snowflake.Proofs.Decision
import Snowflake.Proofs.Budget
import Snowflake.Proofs.Provisioning
import Snowflake.Proofs.Ordinals
import Snowflake.Proofs.Contention.Termination
import Snowflake.Proofs.CatchingUp
import Snowflake.Proofs.Pauses
import Snowflake.Proofs.Parsing
import Snowflake.Proofs.Validation
import Snowflake.Proofs.Startup
import Snowflake.Proofs.Contention.Exhaustion
import Snowflake.Proofs.FarEpochs
import Snowflake.Proofs.ReadTwice
import Snowflake.Proofs.Ticking
import Snowflake.Proofs.Stopwatch
import Snowflake.Proofs.Rehearsed
import Snowflake.Proofs.Stepping
