import Snowflake.Cli.Start
import Std.Time.DateTime.Timestamp

/-!
# `Snowflake.Main`: the command

The computer as a machine, and the process that runs on it.
-/

set_option autoImplicit false

namespace Snowflake

/-- The computer that the process runs on. -/
def computer : Machine IO where
  wall := do
    let now ← Std.Time.Timestamp.now
    return ⟨now.toNanosecondsSinceUnixEpoch.toInt⟩
  instant := return ⟨← IO.monoNanosNow⟩
  yield := IO.sleep 0
  sleep d := IO.sleep ((d.nanos + 999999) / 1000000).toUInt32
  write text := do
    let out ← IO.getStdout
    out.putStr text
    out.flush

/-- The environment of the process. -/
def processEnvironment : IO Environment := do
  let block ← IO.FS.readBinFile "/proc/self/environ"
  return .ofBlock block.toList

/-- The file of variables in the working directory, or in one of so many
directories above it. -/
def variableFile : Nat → String → IO (Option String)
  | 0, _ => return none
  | above + 1, directory => do
    try
      return some (← IO.FS.readFile (directory ++ ".env"))
    catch _ => variableFile above (directory ++ "../")

end Snowflake

open Snowflake in
/-- The command. -/
def main (args : List String) : IO UInt32 := do
  let directory ← IO.currentDir
  let file ← variableFile directory.components.length "./"
  let ending ← Cli.start computer (1 <<< 62) (← processEnvironment) file args
  match ending with
  | none => return 1
  | some ending =>
    let err ← IO.getStderr
    match ending with
    | .usage u => if u.exitCode ≠ 0 then err.putStr u.message
    | _ => err.putStr ((ending.report?.map Cli.Report.text).getD "")
    return ending.exitCode.toUInt32
