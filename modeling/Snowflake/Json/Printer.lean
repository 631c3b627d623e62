import Snowflake.Binary64.Shortest
import Snowflake.Json

/-!
# `Snowflake.Json.Printer`: values as text

A value is written in one of two layouts. The compact one holds no blanks. The
indented one puts every item and member on a line of its own, two blanks
deeper than the bracket around it, and a blank behind each colon; empty
brackets stay together.
-/

set_option autoImplicit false

namespace Snowflake.Json

open Text

/-- One character of a text as it stands between quotation marks. -/
def escape (c : Char) : List Char :=
  match c with
  | '"' => ['\\', '"']
  | '\\' => ['\\', '\\']
  | '\x08' => ['\\', 'b']
  | '\x0c' => ['\\', 'f']
  | '\n' => ['\\', 'n']
  | '\r' => ['\\', 'r']
  | '\t' => ['\\', 't']
  | c =>
    if c.toNat < 0x20 then
      ['\\', 'u', '0', '0', Nat.digitChar (c.toNat / 16), Nat.digitChar (c.toNat % 16)]
    else [c]

/-- A text between quotation marks. -/
def quote (s : String) : String := String.ofList ('"' :: s.toList.flatMap escape ++ ['"'])

/-- A number as text. -/
def Number.text : Number → String
  | .whole n => Decimal.signedText n
  | .real x => x.text

/-- How the parts of an array or an object are laid out. -/
structure Layout where
  /-- What stands before each part, at a depth. -/
  lead : Nat → String
  /-- What stands before the closing bracket, at the depth of the parts. -/
  close : Nat → String
  /-- What stands between a name and its value. -/
  colon : String

/-- Without blanks. -/
def Layout.compact : Layout := ⟨fun _ => "", fun _ => "", ":"⟩

/-- A new line and two blanks for each bracket around it. -/
def Layout.newLine (depth : Nat) : String := "\n" ++ String.ofList (List.replicate (2 * depth) ' ')

/-- A part on each line. -/
def Layout.indented : Layout := ⟨Layout.newLine, fun depth => Layout.newLine (depth - 1), ": "⟩

mutual

/-- A value as text, inside so many brackets. -/
def textAt (l : Layout) (depth : Nat) : Json → String
  | .null => "null"
  | .bool b => if b then "true" else "false"
  | .number n => n.text
  | .string s => quote s
  | .array [] => "[]"
  | .array (v :: vs) =>
    "[" ++ ",".intercalate (itemTexts l (depth + 1) (v :: vs)) ++ l.close (depth + 1) ++ "]"
  | .object [] => "\x7b\x7d"
  | .object (m :: ms) =>
    "\x7b" ++ ",".intercalate (memberTexts l (depth + 1) (m :: ms)) ++ l.close (depth + 1) ++ "\x7d"

/-- The items of an array, each as text. -/
def itemTexts (l : Layout) (depth : Nat) : List Json → List String
  | [] => []
  | v :: vs => (l.lead depth ++ textAt l depth v) :: itemTexts l depth vs

/-- The members of an object, each as text. -/
def memberTexts (l : Layout) (depth : Nat) : List (String × Json) → List String
  | [] => []
  | (name, v) :: ms =>
    (l.lead depth ++ quote name ++ l.colon ++ textAt l depth v) :: memberTexts l depth ms

end

/-- A value on one line, without blanks. -/
def compact (v : Json) : String := textAt .compact 0 v

/-- A value with a part on each line. -/
def indented (v : Json) : String := textAt .indented 0 v

end Snowflake.Json
