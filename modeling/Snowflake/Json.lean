import Snowflake.Binary64

/-!
# `Snowflake.Json`: values of the data format

Identifiers are stored and sent in JSON. A value is one of the seven forms of
the format; numbers come in two, whole numbers of 64 bits and floating point
numbers. The members of an object stand in the order in which they were read
or are to be written.
-/

set_option autoImplicit false

namespace Snowflake

/-- A number: a whole one that fits into 64 bits, signed or unsigned, or any
other. -/
inductive Json.Number
  /-- A whole number. -/
  | whole (n : Int)
  /-- A floating point number. -/
  | real (x : Binary64)
deriving DecidableEq, Repr

/-- A value. -/
inductive Json
  /-- Nothing. -/
  | null
  /-- A truth value. -/
  | bool (b : Bool)
  /-- A number. -/
  | number (n : Json.Number)
  /-- A text. -/
  | string (s : String)
  /-- A sequence of values. -/
  | array (items : List Json)
  /-- Values by name. -/
  | object (members : List (String × Json))
deriving Repr

namespace Json

/-- A natural number as a value. -/
def ofNat (n : Nat) : Json := .number (.whole n)

/-- What may be there, or nothing. -/
def ofOption {α : Type} (f : α → Json) : Option α → Json
  | none => .null
  | some a => f a

end Json

end Snowflake
