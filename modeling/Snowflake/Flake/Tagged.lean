import Snowflake.Flake

/-!
# `Snowflake.Flake.Tagged`: identifiers of one kind of thing

Orders and customers both have identifiers, and the two must not be mixed up.
`Tagged name` is the type of identifiers of the things called `name`; it holds
an identifier and nothing else, and converts as identifiers do.
-/

set_option autoImplicit false

namespace Snowflake

/-- An identifier of the things with the given name. -/
structure Tagged (name : String) where
  /-- The identifier. -/
  flake : Flake
deriving DecidableEq, Repr

namespace Tagged

variable {name : String}

/-- Tagged identifiers are ordered as identifiers are. -/
instance : Ord (Tagged name) := ⟨fun a b => compare a.flake b.flake⟩

/-- The tagged identifier of an unsigned word. -/
def ofWord (raw : UInt64) : Except Error (Tagged name) := (Flake.ofWord raw).map Tagged.mk

/-- The tagged identifier of a signed word. -/
def ofInt64 (n : Int64) : Except Error (Tagged name) := (Flake.ofInt64 n).map Tagged.mk

/-- Reads a tagged identifier in decimal. -/
def parse (s : String) : Except Error (Tagged name) := (Flake.parse s).map Tagged.mk

/-- The word. -/
def value (t : Tagged name) : UInt64 := t.flake.raw

/-- The word read as a signed integer. -/
def toInt64 (t : Tagged name) : Int64 := t.flake.toInt64

/-- The word in decimal. -/
def text (t : Tagged name) : String := t.flake.text

/-- The identifier's fields behind the name of the kind. -/
def describe (t : Tagged name) : String := name ++ "(" ++ t.flake.describe ++ ")"

end Tagged

end Snowflake
