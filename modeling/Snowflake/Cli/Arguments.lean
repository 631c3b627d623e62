import Snowflake.Cli.Setting

/-!
# `Snowflake.Cli.Arguments`: the command and its settings

The arguments are read from left to right, first those of the program and,
behind the name of a command, those of the command. `Level` is one of the two;
it takes options, and a command that takes an identifier takes one. The value
of an option is looked at late, when the next one comes or the level ends, so
that of two mistakes the later one may be reported.

A setting counts from the command's level before the program's, from there
before its variable, and from that before the default.
-/

set_option autoImplicit false

namespace Snowflake.Cli

/-- What is asked for. -/
inductive Command
  /-- Issue identifiers. -/
  | generate (count : Nat) (format : Format)
  /-- Take an identifier apart. -/
  | decode (id : String)
deriving DecidableEq, Repr

/-- Where arguments stand. -/
inductive Scope
  /-- In front of the command's name. -/
  | program
  /-- Behind the name of issuing. -/
  | generate
  /-- Behind the name of taking apart. -/
  | decode
deriving DecidableEq, Repr

/-- What a name stands for in place of a command. -/
inductive CommandName
  /-- A command. -/
  | command (scope : Scope)
  /-- Help about a command. -/
  | help
deriving DecidableEq, Repr

/-- The names of commands. -/
def CommandName.ofName? : String → Option CommandName
  | "generate" => some (.command .generate)
  | "decode" => some (.command .decode)
  | "help" => some .help
  | _ => none

namespace Scope

/-- The command that a name stands for; a command has none of its own. -/
def commandName? : Scope → String → Option CommandName
  | program, name => CommandName.ofName? name
  | _, _ => none

/-- The settings that have an option. -/
def settings : Scope → List Setting
  | generate => Setting.generating ++ Setting.shared
  | _ => Setting.shared

end Scope

/-- What an option's name or letter stands for. -/
inductive Flag
  /-- A setting. -/
  | setting (s : Setting)
  /-- Help. -/
  | help
  /-- The version. -/
  | version
deriving DecidableEq, Repr

namespace Flag

/-- The option with a name. -/
def ofName? (scope : Scope) (name : String) : Option Flag :=
  match scope.settings.find? fun s => s.name == name with
  | some s => some (.setting s)
  | none =>
    if name = "help" then some .help
    else if name = "version" ∧ scope = .program then some .version
    else none

/-- The option with a letter. -/
def ofLetter? (scope : Scope) (letter : Char) : Option Flag :=
  if letter = 'n' ∧ scope = .generate then some (.setting .count)
  else if letter = 'h' then some .help
  else if letter = 'V' ∧ scope = .program then some .version
  else none

end Flag

/-- The arguments of one level that have been read. -/
structure Level where
  /-- The settings with a value. -/
  given : Given := {}
  /-- The identifier to take apart. -/
  id : Option String := none
  /-- The option read last, with its value once that was read too. -/
  pending : Option (Setting × Option String) := none
  /-- Only values follow. -/
  trailing : Bool := false

namespace Level

/-- The next argument is the value of an option. -/
def awaitsValue (l : Level) : Bool :=
  match l.pending with
  | some (_, none) => !l.trailing
  | _ => false

/-- Gives a value to a setting that has none at this level. -/
def assign (l : Level) (s : Setting) (text : String) : Except Usage Level :=
  if l.given.has s then .error (.repeated s.name)
  else return { l with given := ← l.given.put s text }

/-- Looks at the value of the option read last. -/
def settle (l : Level) : Except Usage Level :=
  match l.pending with
  | none => .ok l
  | some (s, none) => .error (.missingValue s.name)
  | some (s, some text) => { l with pending := none }.assign s text

/-- An option, with the value that is written in one argument with it. -/
def option (l : Level) : Flag → Option String → Except Usage Level
  -- A value in the same argument is looked at now, one in the next argument
  -- only when that option is settled in its turn.
  | .setting s, some text => do (← l.settle).assign s text
  | .setting s, none => return { ← l.settle with pending := some (s, none) }
  -- An unwanted value is reported whatever is still pending.
  | .help, some _ => .error (.unwantedValue "help")
  | .version, some _ => .error (.unwantedValue "version")
  | .help, none => l.settle >>= fun _ => .error .help
  | .version, none => l.settle >>= fun _ => .error .version

/-- An argument that is no option. -/
def positional (scope : Scope) (l : Level) (arg : String) : Except Usage Level :=
  match scope, l.id with
  | .decode, none => return { ← l.settle with id := some arg }
  | .program, _ =>
    if l.trailing && (scope.commandName? arg).isSome then .error (.unknownArgument arg)
    else .error (.unknownCommand arg)
  | _, _ => .error (.unknownArgument arg)

/-- An option with a name, and the value behind an equals sign. -/
def longOption (scope : Scope) (l : Level) (arg : String) (cs : List Char) : Except Usage Level :=
  let name := String.ofList (cs.takeWhile (· ≠ '='))
  let value :=
    match cs.dropWhile (· ≠ '=') with
    | [] => none
    | _ :: value => some (String.ofList value)
  match Flag.ofName? scope name with
  | some flag => l.option flag value
  | none => .error (.unknownArgument arg)

/-- An option with a letter, and the value behind it, with or without an
equals sign. A letter that takes no value stands for itself, whatever
follows. -/
def shortOption (scope : Scope) (l : Level) (arg : String) (letter : Char) (cs : List Char) :
    Except Usage Level :=
  match Flag.ofLetter? scope letter, cs with
  | none, _ => .error (.unknownArgument arg)
  | some (.setting s), [] => l.option (.setting s) none
  | some (.setting s), '=' :: value => l.option (.setting s) (some (String.ofList value))
  | some (.setting s), value => l.option (.setting s) (some (String.ofList value))
  | some flag, _ => l.option flag none

/-- An argument that is not the name of a command. -/
def accept (scope : Scope) (l : Level) (arg : String) : Except Usage Level :=
  if l.trailing then l.positional scope arg
  else
    match arg.toList with
    -- Options come before values: a value that looks like an option is never
    -- taken for the value of the option before it.
    | ['-', '-'] => .ok { l with trailing := true }
    | '-' :: '-' :: cs => l.longOption scope arg cs
    | '-' :: letter :: cs => l.shortOption scope arg letter cs
    | _ =>
      match l.pending with
      | some (s, none) => .ok { l with pending := some (s, some arg) }
      | _ => l.positional scope arg

/-- How asking for help about commands ends. A command has no commands of its
own to ask about. -/
def helpAbout : List String → Usage
  | [] => .help
  | [name] => if (CommandName.ofName? name).isSome then .help else .unknownCommand name
  | name :: other :: _ =>
    if (CommandName.ofName? name).isSome then .unknownCommand other else .unknownCommand name

/-- Reads the arguments of a level, up to the name of a command. The answer
holds the command with its own arguments. -/
def scan (scope : Scope) (l : Level) :
    List String → Except Usage (Level × Option (Scope × List String))
  | [] => .ok (l, none)
  | arg :: args =>
    -- The name of a command behind an option that awaits a value is its value.
    match if l.trailing || l.awaitsValue then none else scope.commandName? arg with
    | some (.command inner) => .ok (l, some (inner, args))
    | some .help => .error (helpAbout args)
    | none => l.accept scope arg >>= fun l => scan scope l args

/-- Ends a level: the last option is settled, and variables give what the
arguments did not. The answer is the level with the values of the
variables. -/
def finish (env : Environment) (l : Level) : Except Usage (Level × Given) := do
  let l ← l.settle
  return (l, ← Given.ofVariables env l.given)

end Level

/-- What the command line and the variables ask for. -/
structure Arguments where
  /-- What is to be done. -/
  command : Command
  /-- The worker number. -/
  workerId : Option Nat
  /-- Where the worker number comes from. -/
  workerIdSource : SourceKind
  /-- The host name whose ordinal counts. -/
  hostname : Option String
  /-- What is added to the ordinal. -/
  ordinalOffset : Nat
  /-- The epoch in Unix milliseconds. -/
  epochMillis : Nat
  /-- What to do when the clock moves backward. -/
  driftPolicy : DriftKind
  /-- The largest drift to wait out, in milliseconds. -/
  maxDriftMillis : Nat
  /-- The time that one call may wait, in milliseconds. -/
  maxWaitMillis : Nat
  /-- How callers share the generator. -/
  generator : Kind
  /-- Which clock is read. -/
  clock : ClockKind
deriving DecidableEq, Repr

namespace Arguments

/-- A command with the given settings, and the defaults for the others. -/
def ofGiven (command : Command) (g : Given) : Arguments where
  command := command
  workerId := g.workerId
  workerIdSource := g.workerIdSource.getD .fixed
  hostname := g.hostname
  ordinalOffset := g.ordinalOffset.getD 0
  epochMillis := g.epochMillis.getD defaultEpoch.millis
  driftPolicy := g.driftPolicy.getD .fail
  maxDriftMillis := g.maxDriftMillis.getD 10
  maxWaitMillis := g.maxWaitMillis.getD ({} : Options).maxWait.millis
  generator := g.generator.getD .lockFree
  clock := g.clock.getD .system

/-- The command of a scope, once its arguments are read. -/
def commandOf (scope : Scope) (l : Level) : Except Usage Command :=
  match scope, l.id with
  | .decode, none => .error .missingId
  | .decode, some id => .ok (.decode id)
  | _, _ => .ok (.generate (l.given.count.getD 1) (l.given.format.getD .decimal))

/-- Reads the command's own arguments. -/
def readCommand (env : Environment) (scope : Scope) (args : List String) :
    Except Usage (Command × Given × Given) := do
  let (level, _) ← ({} : Level).scan scope args
  let (level, fromEnv) ← level.finish env
  return (← commandOf scope level, level.given, fromEnv)

/-- Reads a command line. The command's level is finished before the
program's, so that its mistakes come first. -/
def parse (env : Environment) (args : List String) : Except Usage Arguments := do
  let (outer, inner?) ← ({} : Level).scan .program args
  match inner? with
  | some (scope, rest) =>
    -- A value given at either level wins over the variables.
    let (command, inner, fromEnv) ← readCommand env scope rest
    let (outer, _) ← outer.finish env
    return ofGiven command (inner.orElse (outer.given.orElse fromEnv))
  | none =>
    let (outer, fromEnv) ← outer.finish env
    if outer.given.orElse fromEnv = {} then .error .nothingGiven else .error .missingCommand

end Arguments

end Snowflake.Cli
