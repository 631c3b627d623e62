import Snowflake.Json.Token

/-!
# `Snowflake.Json.Reader`: values from text

A text is read word by word. What has been opened and not closed yet is a
stack of arrays and objects, each with what it holds so far; `Place` adds what
the next word may be. A value may lie in at most 127 arrays and objects.
-/

set_option autoImplicit false

namespace Snowflake.Json

/-- An array or an object that is not closed yet, with its contents in
reverse. -/
inductive Open
  /-- An array with the items so far. -/
  | array (items : List Json)
  /-- An object with the members so far, and the name that the next value
  belongs to. -/
  | object (members : List (String × Json)) (name : String)

/-- What may come next. -/
inductive Place
  /-- A value. -/
  | value (around : List Open)
  /-- The first item of an array, or its end. -/
  | firstItem (around : List Open)
  /-- The first name of an object, or its end. -/
  | firstName (around : List Open)
  /-- A further name. -/
  | name (members : List (String × Json)) (around : List Open)
  /-- The colon behind a name. -/
  | colon (members : List (String × Json)) (name : String) (around : List Open)
  /-- What separates the value just read from the next, or an end. -/
  | separator (v : Json) (around : List Open)

/-- The deepest nesting. -/
def maxDepth : Nat := 127

/-- A word where a value may start. -/
def startValue (around : List Open) : Token → Option Place
  | .null => some (.separator .null around)
  | .bool b => some (.separator (.bool b) around)
  | .number n => some (.separator (.number n) around)
  | .string s => some (.separator (.string s) around)
  | .openBracket => if around.length < maxDepth then some (.firstItem around) else none
  | .openBrace => if around.length < maxDepth then some (.firstName around) else none
  | _ => none

/-- One word. -/
def Place.step : Place → Token → Option Place
  | .value around, t => startValue around t
  | .firstItem around, .closeBracket => some (.separator (.array []) around)
  -- The array counts as opened only now, when an item starts in it.
  | .firstItem around, t => startValue (.array [] :: around) t
  | .firstName around, .closeBrace => some (.separator (.object []) around)
  | .firstName around, .string s => some (.colon [] s around)
  | .name members around, .string s => some (.colon members s around)
  | .colon members s around, .colon => some (.value (.object members s :: around))
  | .separator v (.array items :: around), .comma => some (.value (.array (v :: items) :: around))
  | .separator v (.array items :: around), .closeBracket =>
    some (.separator (.array (v :: items).reverse) around)
  | .separator v (.object members s :: around), .comma => some (.name ((s, v) :: members) around)
  | .separator v (.object members s :: around), .closeBrace =>
    some (.separator (.object ((s, v) :: members).reverse) around)
  | _, _ => none

/-- The value that stands outside every array and object, once it is
complete. -/
def Place.result? : Place → Option Json
  | .separator v [] => some v
  | _ => none

/-- The value that a text spells. -/
def read? (s : String) : Option Json := do
  let ts ← tokens? s.toList
  let p ← ts.foldlM Place.step (.value [])
  p.result?

end Snowflake.Json
