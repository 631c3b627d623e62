import Snowflake.Environment
import Snowflake.Text.Alphanumeric
import Snowflake.Text.Blank

/-!
# `Snowflake.EnvFile`: variables from a file

A deployment may keep the variables of a process in a file beside it, one
`NAME=value` on a line. `Environment.load` adds them to an environment; a
variable that is set already keeps its value, and the first malformed line
ends the reading. A zero octet ends an entry of an environment, so a value that
holds one cannot be set, and loading it is a failure.

A value goes on over the end of a line while a quotation mark is open. Between
single quotation marks every character stands for itself. Elsewhere a
backslash protects the next character, and `$NAME` or `${NAME}` stands for the
value of a variable, those of earlier lines included. Outside quotation marks
a blank ends the value, and only a comment may follow.
-/

set_option autoImplicit false

namespace Snowflake

namespace EnvFile

open Text

/-! ### Lines -/

/-- What has been opened at some place of a line. -/
inductive Quoting
  /-- Nothing. -/
  | none
  /-- Nothing, behind a blank: a comment may start. -/
  | blank
  /-- A backslash. -/
  | escape
  /-- A double quotation mark. -/
  | weak
  /-- A backslash behind a double quotation mark. -/
  | weakEscape
  /-- A single quotation mark. -/
  | strong
  /-- A backslash behind a single quotation mark. -/
  | strongEscape
deriving DecidableEq, Repr

/-- What a character outside quotation marks opens. -/
def Quoting.opening (c : Char) : Quoting :=
  if c = '\\' then .escape else if c = '"' then .weak else if c = '\'' then .strong else .none

/-- What is open behind a character, unless a comment starts with it. -/
def Quoting.next? (q : Quoting) (c : Char) : Option Quoting :=
  match q with
  | .none => some (if isBlank c && c ≠ '\n' && c ≠ '\r' then .blank else .opening c)
  -- Only the first blank in a row lets a comment start behind it.
  | .blank => if c = '#' then Option.none else some (.opening c)
  | .escape => some .none
  | .weak => some (if c = '\\' then .weakEscape else if c = '"' then .none else .weak)
  | .weakEscape => some .weak
  | .strong => some (if c = '\\' then .strongEscape else if c = '\'' then .none else .strong)
  | .strongEscape => some .strong

/-- How a line ends. -/
inductive LineEnd
  /-- With something open, or nothing. -/
  | reached (q : Quoting)
  /-- With a comment, behind so much text. -/
  | comment (before : List Char)

/-- Follows a line to its end. -/
def follow (q : Quoting) : List Char → LineEnd
  | [] => .reached q
  | c :: cs =>
    match q.next? c with
    | Option.none => .comment []
    | some q =>
      match follow q cs with
      | .comment before => .comment (c :: before)
      | .reached q => .reached q

/-- A text cut behind each line feed. -/
def cutLines : List Char → List (List Char)
  | [] => []
  | c :: cs =>
    if c = '\n' then [c] :: cutLines cs
    else
      match cutLines cs with
      | [] => [[c]]
      | line :: lines => (c :: line) :: lines

/-- The text is a comment behind blanks. -/
def isComment (cs : List Char) : Bool := (cs.dropWhile isBlank).head? == some '#'

/-- Lines joined while something is open, behind the text of the lines joined
so far. A comment is left out. At the end of the file nothing may be open;
`none` stands for a line where something is. -/
def joinLines (q : Quoting) (text : List Char) : List (List Char) → List (Option (List Char))
  | [] => if q = .none then [] else [Option.none]
  | line :: lines =>
    if isComment (text ++ line) then some [] :: joinLines .none [] lines
    else
      match follow q line with
      | .comment before => some (text ++ before) :: joinLines .none [] lines
      | .reached .none => some (text ++ line) :: joinLines .none [] lines
      | .reached q => joinLines q (text ++ line) lines

/-! ### Values -/

/-- Where a value is being read. -/
inductive Place
  /-- Among plain characters. -/
  | plain
  /-- Behind a backslash. -/
  | escape
  /-- Between single quotation marks. -/
  | strong
  /-- In the name behind a dollar sign, which is given in reverse. -/
  | name (name : List Char)
  /-- In a name between braces, which is given in reverse. -/
  | braces (name : List Char)
  /-- Behind the blank that ends the value. -/
  | behind
  /-- In the comment behind the value. -/
  | comment
deriving DecidableEq, Repr

/-- A value that is being read. -/
structure Draft where
  /-- The characters so far, in reverse. -/
  output : List Char := []
  /-- A double quotation mark is open. -/
  weak : Bool := false
  /-- Where the next character stands. -/
  place : Place := .plain

namespace Draft

/-- The character that one behind a backslash stands for. -/
def escaped? (c : Char) : Option Char :=
  if c = 'n' then some '\n' else if c ∈ ['\\', '\'', '"', '$', ' '] then some c else Option.none

/-- A reading with one more character. -/
def push (r : Draft) (c : Char) : Draft := { r with output := c :: r.output, place := .plain }

/-- A reading with the value of a variable behind it, nothing when the
variable has no text. -/
def insert (env : Environment) (r : Draft) (name : List Char) : Draft :=
  match env.text (String.ofList name.reverse) with
  | .ok s => { r with output := s.toList.reverse ++ r.output, place := .plain }
  | .error _ => { r with place := .plain }

/-- Reads a character among plain ones. -/
def plain (r : Draft) (c : Char) : Draft :=
  if c = '$' then { r with place := .name [] }
  else if r.weak then
    if c = '"' then { r with weak := false }
    else if c = '\\' then { r with place := .escape }
    else r.push c
  else if c = '\'' then { r with place := .strong }
  else if c = '"' then { r with weak := true }
  else if c = '\\' then { r with place := .escape }
  else if c = ' ' ∨ c = '\t' then { r with place := .behind }
  else r.push c

/-- Reads a character. A name without braces takes letters and numbers, and
the character that ends it stands for itself. -/
def step (env : Environment) (r : Draft) (c : Char) : Option Draft :=
  match r.place with
  | .plain => some (r.plain c)
  | .escape => (escaped? c).map r.push
  | .strong =>
    some (if c = '\'' then { r with place := .plain } else { r with output := c :: r.output })
  | .name name =>
    if isAlphanumeric c then some { r with place := .name (c :: name) }
    else if c = '\x7b' ∧ name = [] then some { r with place := .braces [] }
    -- The character that ends a name stands for itself, even a quotation mark.
    else if c = '$' then some { r.insert env name with place := .name [] }
    else some ((r.insert env name).push c)
  | .braces name =>
    if c = '\x7d' then some (r.insert env name) else some { r with place := .braces (c :: name) }
  | .behind =>
    if c = ' ' ∨ c = '\t' then some r
    else if c = '#' then some { r with place := .comment }
    else Option.none
  | .comment => some r

/-- The value that was read, when nothing is open. -/
def value? (env : Environment) (r : Draft) : Option String :=
  if r.weak then Option.none
  else
    match r.place with
    | .strong | .braces _ => Option.none
    | .name name => some (String.ofList (r.insert env name).output.reverse)
    | _ => some (String.ofList r.output.reverse)

end Draft

/-- The value that a text spells. -/
def readValue (env : Environment) (cs : List Char) : Option String := do
  let r ← cs.foldlM (Draft.step env) {}
  r.value? env

/-! ### Assignments -/

/-- A character that a name may start with. -/
def isNameStart (c : Char) : Bool := c.isAlpha || c = '_'

/-- A character that a name may hold. -/
def isNamePart (c : Char) : Bool := c.isAlphanum || c = '_' || c = '.'

/-- The name at the front of a text, and what follows it and the blanks behind
it. -/
def readName : List Char → Option (String × List Char)
  | [] => Option.none
  | c :: cs =>
    if isNameStart c then
      some (String.ofList (c :: cs.takeWhile isNamePart),
        (cs.dropWhile isNamePart).dropWhile isBlank)
    else Option.none

/-- The name that is assigned to, behind an optional `export`, and what
follows the equals sign. -/
def readTarget (cs : List Char) : Option (String × List Char) := do
  match ← readName cs with
  | (name, '=' :: rest) => return (name, rest)
  | ("export", rest) =>
    match ← readName rest with
    | (name, '=' :: rest) => return (name, rest)
    | _ => Option.none
  | _ => Option.none

/-- What a line says. -/
inductive Line
  /-- Nothing. -/
  | empty
  /-- A variable's value. -/
  | assignment (name value : String)
  /-- Something malformed. -/
  | malformed

/-- What a line says in an environment. -/
def readLine (env : Environment) (cs : List Char) : Line :=
  match (trimEnd cs).dropWhile isBlank with
  | [] => .empty
  | '#' :: _ => .empty
  | cs =>
    match readTarget cs with
    | Option.none => .malformed
    | some (name, rest) =>
      match rest.dropWhile isBlank with
      | [] => .assignment name ""
      | '#' :: _ => .assignment name ""
      | cs =>
        match readValue env cs with
        | some value => .assignment name value
        | Option.none => .malformed

/-- A variable with a value that no environment can hold. -/
structure Unsettable where
  /-- The name of the variable. -/
  name : String
  /-- The value, which has a zero octet in it. -/
  value : String
deriving DecidableEq, Repr

/-- The sentence shown for a variable that cannot be set. -/
def Unsettable.message (u : Unsettable) : String :=
  "failed to set environment variable \x60" ++ Quoted.text u.name ++ "\x60 to \x60"
    ++ Quoted.text u.value ++ "\x60: file name contained an unexpected NUL byte"

/-- Adds the variables of the lines, up to the first malformed one. -/
def addLines (env : Environment) : List (Option (List Char)) → Except Unsettable Environment
  | [] => .ok env
  | Option.none :: _ => .ok env
  | some line :: lines =>
    match readLine env line with
    | .empty => addLines env lines
    | .malformed => .ok env
    | .assignment name value =>
      -- A variable whose value is no text counts as not set.
      match env.text name with
      | .ok _ => addLines env lines
      | .error _ =>
        if '\x00' ∈ value.toList then .error ⟨name, value⟩
        else addLines (env.set name (.text value)) lines

/-- The text of a file without the mark that some editors put in front. -/
def withoutMark : List Char → List Char
  | '\ufeff' :: cs => cs
  | cs => cs

end EnvFile

/-- The environment with the variables of a file added. -/
def Environment.load (env : Environment) (text : String) :
    Except EnvFile.Unsettable Environment :=
  EnvFile.addLines env
    (EnvFile.joinLines .none [] (EnvFile.cutLines (EnvFile.withoutMark text.toList)))

end Snowflake
