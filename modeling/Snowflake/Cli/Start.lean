import Snowflake.Cli.Run
import Snowflake.EnvFile

/-!
# `Snowflake.Cli.Start`: from the start of a process to its exit code

A process first adds the variables of its file to its environment, then reads
its arguments, checks the settings and runs. `start` goes through these steps
on a machine and says how the process ends. A file that cannot be loaded ends
it before the arguments are looked at, even where they ask for help.
-/

set_option autoImplicit false

namespace Snowflake.Cli

/-- How a process ends. -/
inductive Ending
  /-- It did what was asked for. -/
  | done
  /-- Its file holds a value that cannot be set. -/
  | unsettable (u : EnvFile.Unsettable)
  /-- Its command line asked for nothing that can be done. -/
  | usage (u : Usage)
  /-- Its settings cannot be worked with. -/
  | config (e : ConfigError)
  /-- Its run ended early. -/
  | failed (f : Failure)
deriving DecidableEq, Repr

namespace Ending

/-- The report of an ending that has one. -/
def report? : Ending → Option Report
  | unsettable u => some { cause := u.message }
  | config e => some e.report
  | failed f => some f.report
  | _ => none

/-- The exit code of a process. -/
def exitCode : Ending → Nat
  | done => 0
  | unsettable _ => 101
  | usage u => u.exitCode
  | config _ => 1
  | failed (.panic _) => 101
  | failed _ => 1

end Ending

/-- What a command line and an environment ask for, checked. -/
def configure (env : Environment) (args : List String) : Except Ending Config := do
  let arguments ← (Arguments.parse env args).mapError .usage
  (Config.ofArguments arguments).mapError .config

/-- Runs a process on a machine. Asking for the version writes it. -/
def start {m : Type → Type} [Monad m] (mc : Machine m) (polls : Nat) (env : Environment)
    (file : Option String) (args : List String) : m (Option Ending) := do
  match file.elim (.ok env) env.load with
  | .error u => return some (.unsettable u)
  | .ok env =>
    match configure env args with
    | .error (.usage u) =>
      if u.exitCode = 0 then mc.write u.message
      return some (.usage u)
    | .error e => return some e
    | .ok config =>
      return (← config.run mc env polls).map fun
        | .ok () => .done
        | .error f => .failed f

end Snowflake.Cli
