import Snowflake.Text.Extender
import Snowflake.Text.Unprintable

/-!
# `Snowflake.Text.Quoted`: a text between quotation marks, in visible characters

Messages show a rejected text between quotation marks. The quotation mark, the
backslash and the four common controls are written with a backslash and one
letter. A mark that extends the character before it, or a character without a
visible form, is written by its code point, `\u{301}`. All else stands for
itself.
-/

set_option autoImplicit false

namespace Snowflake.Text.Quoted

/-- The lower-case hexadecimal digits of a number, without leading zeros. -/
def hex (n : Nat) : List Char := Nat.toDigits 16 n

/-- A printable ASCII character shows itself, so the tables are asked about
the others only. -/
def isPlain (c : Char) : Bool :=
  if c.toNat < 0x7F then decide (0x20 ≤ c.toNat)
  else !isExtender c && !isUnprintable c

/-- One character as it stands between the quotation marks. -/
def escape (c : Char) : List Char :=
  match c with
  | '\x00' => ['\\', '0']
  | '\t' => ['\\', 't']
  | '\r' => ['\\', 'r']
  | '\n' => ['\\', 'n']
  | '"' => ['\\', '"']
  | '\\' => ['\\', '\\']
  | c => if isPlain c then [c] else ['\\', 'u', '\x7b'] ++ hex c.toNat ++ ['\x7d']

/-- A text between quotation marks. -/
def encode (cs : List Char) : List Char := '"' :: cs.flatMap escape ++ ['"']

/-- A string between quotation marks. -/
def text (s : String) : String := String.ofList (encode s.toList)

example : text "a\"b" = "\"a\\\"b\"" := by decide +kernel
example : text "7\u0301" = "\"7\\u\x7b301\x7d\"" := by decide +kernel

end Snowflake.Text.Quoted
