import Snowflake.Text.Octets

/-!
# `Snowflake.Environment`: the variables a process is started with

An environment maps names to values. A value is octets; those that are UTF-8
are kept as the text they encode, the others as they came, since a message
shows them.

A process gets its environment as entries `NAME=value`. A look-up asks for the
entry that starts with a name and an equals sign, so a name that holds an
equals sign itself reaches into a value; for any other name `find?` is `get?`.
-/

set_option autoImplicit false

namespace Snowflake

/-- The value of an environment variable. -/
inductive VarValue
  /-- A value that is text. -/
  | text (s : String)
  /-- Octets that are not UTF-8. -/
  | octets (bs : List UInt8)
deriving DecidableEq

/-- The value made of the given octets. -/
def VarValue.ofOctets (bs : List UInt8) : VarValue :=
  match Text.Octets.decode? bs with
  | some s => .text s
  | none => .octets bs

/-- What stands in a value behind the given characters, when it starts with
them. -/
def VarValue.behind? (front : List Char) : VarValue → Option VarValue
  | text s => (front.isPrefixOf? s.toList).map fun rest => text (String.ofList rest)
  -- The front is text, so the octets that are not lie behind it.
  | octets bs => ((String.ofList front).toUTF8.toList.isPrefixOf? bs).map octets

/-- Variables by name, each with its value. -/
structure Environment where
  /-- The variables; of two with one name the first counts. -/
  vars : List (String × VarValue)
deriving Inhabited

/-- Why a variable gave no text. -/
inductive VarError
  /-- The variable is not set. -/
  | missing
  /-- Its value is not UTF-8. -/
  | notText (bs : List UInt8)
deriving DecidableEq

/-- The sentence shown for a variable that gave no text. -/
def VarError.message : VarError → String
  | .missing => "environment variable not found"
  | .notText bs => "environment variable was not valid unicode: " ++ Text.Octets.quoted bs

namespace Environment

/-- The environment without variables. -/
def empty : Environment := ⟨[]⟩

/-- The value of a variable. -/
def get? (env : Environment) (name : String) : Option VarValue := env.vars.lookup name

/-- The value that stands behind a name and an equals sign. The entry
`NAME=a=5` has the value `a=5` under `NAME`, and `5` under `NAME=a`. -/
def find? (env : Environment) (name : String) : Option VarValue :=
  match name.toList.dropWhile (· ≠ '=') with
  | [] => env.get? name
  | _ :: front =>
    (env.get? (String.ofList (name.toList.takeWhile (· ≠ '=')))).bind
      (VarValue.behind? (front ++ ['=']))

/-- The text under a name. -/
def text (env : Environment) (name : String) : Except VarError String :=
  match env.find? name with
  | none => .error .missing
  | some (.text s) => .ok s
  | some (.octets bs) => .error (.notText bs)

/-- The environment with one variable set. -/
def set (env : Environment) (name : String) (value : VarValue) : Environment :=
  ⟨(name, value) :: env.vars⟩

/-- The variable of an entry `NAME=value`, when its name is text and not
empty. -/
def ofEntry? (entry : List UInt8) : Option (String × VarValue) :=
  -- 61 is the equals sign.
  match entry.takeWhile (· ≠ 61), entry.dropWhile (· ≠ 61) with
  | b :: bs, _ :: value =>
    (Text.Octets.decode? (b :: bs)).map fun name => (name, .ofOctets value)
  | _, _ => none

/-- The environment of a block of entries, each with a zero octet behind it,
as a process gets it. -/
def ofBlock (block : List UInt8) : Environment := ⟨(block.splitOn 0).filterMap ofEntry?⟩

/-- A variable that was set has the value it was set to. -/
@[simp] theorem get?_set_self (env : Environment) (name : String) (value : VarValue) :
    (env.set name value).get? name = some value := by
  simp [get?, set]

/-- Setting a variable leaves the others alone. -/
theorem get?_set_of_ne (env : Environment) {name other : String} (value : VarValue)
    (h : other ≠ name) : (env.set name value).get? other = env.get? other := by
  have : (other == name) = false := by simpa using h
  simp [get?, set, List.lookup_cons, this]

/-- A name without an equals sign is the name of a variable or of nothing. -/
theorem find?_eq_get? (env : Environment) {name : String} (h : '=' ∉ name.toList) :
    env.find? name = env.get? name := by
  have nothing : ∀ cs : List Char, '=' ∉ cs → cs.dropWhile (· ≠ '=') = [] := by
    intro cs hcs
    induction cs with
    | nil => rfl
    | cons c cs ih =>
      have hc : c ≠ '=' := fun he => hcs (he ▸ List.mem_cons_self)
      have hcs : '=' ∉ cs := fun hm => hcs (List.mem_cons_of_mem c hm)
      simpa [hc] using ih hcs
  simp only [find?, nothing _ h]

example : (empty.set "X" (.text "a=5")).find? "X=a" = some (.text "5") := by decide +kernel

end Environment

end Snowflake
