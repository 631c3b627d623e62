/-!
# `Snowflake.Cli.Usage`: why a command line asks for nothing that can be done

The arguments and the variables of a process are read before anything else
happens. Each constructor is one way in which that ends without a command; the
first one met, in the order of reading, is reported. Asking for help or for
the version is one of them, and the only kind that leaves with exit code zero.
-/

set_option autoImplicit false

namespace Snowflake.Cli

/-- Why reading the command line gave no command. -/
inductive Usage
  /-- Help was asked for. -/
  | help
  /-- The version was asked for. -/
  | version
  /-- Nothing at all was given, so help is shown in place of an error. -/
  | nothingGiven
  /-- An argument is neither an option nor expected where it stands. -/
  | unknownArgument (argument : String)
  /-- The name of a command is none. -/
  | unknownCommand (name : String)
  /-- No command is named. -/
  | missingCommand
  /-- The identifier to take apart is missing. -/
  | missingId
  /-- An option is given twice. -/
  | repeated (option : String)
  /-- An option has no value behind it. -/
  | missingValue (option : String)
  /-- An option that takes no value has one. -/
  | unwantedValue (option : String)
  /-- A value is none of those that the option knows. -/
  | unknownChoice (option : String)
  /-- A value is no number of 64 bits. -/
  | badNumber (option : String)
  /-- The value of a variable is no text. -/
  | notText (option : String)
deriving DecidableEq, Repr

namespace Usage

/-- The exit code of a process that ends for this reason. -/
def exitCode : Usage → Nat
  | help | version => 0
  | _ => 2

/-- The sentence shown for a reason. -/
def message : Usage → String
  | help | nothingGiven =>
    "usage: flakeid [OPTIONS] generate [-n COUNT] [--format FORMAT]\n"
      ++ "       flakeid [OPTIONS] decode ID\n"
  | version => "flakeid 0.1.0\n"
  | unknownArgument a => "error: unexpected argument " ++ a ++ "\n"
  | unknownCommand name => "error: unrecognized subcommand " ++ name ++ "\n"
  | missingCommand => "error: a subcommand is required\n"
  | missingId => "error: the identifier is required\n"
  | repeated option => "error: " ++ option ++ " is given more than once\n"
  | missingValue option => "error: a value is required for " ++ option ++ "\n"
  | unwantedValue option => "error: " ++ option ++ " takes no value\n"
  | unknownChoice option => "error: invalid value for " ++ option ++ "\n"
  | badNumber option => "error: the value for " ++ option ++ " is no number\n"
  | notText option => "error: the value for " ++ option ++ " is no text\n"

end Usage

end Snowflake.Cli
