import Snowflake.Flake
import Snowflake.Json.Printer

/-!
# `Snowflake.Flake.Json`: identifiers in JSON

An identifier is stored in one of three shapes: as an unsigned number, as a
signed number for columns of that type, or as a string of decimal digits for
readers that lose digits of large numbers. What a shape writes for a valid
identifier it reads back; no shape reads an identifier with the reserved bit
set.
-/

set_option autoImplicit false

namespace Snowflake

open Text

/-- How an identifier is stored. -/
inductive Shape
  /-- As an unsigned number. -/
  | unsigned
  /-- As a signed number. -/
  | signed
  /-- As a string of decimal digits. -/
  | string
deriving DecidableEq, Repr

/-- Why a value is no identifier. -/
inductive Shape.Mismatch
  /-- The value is of another form than the shape has. -/
  | form (found : Json)
  /-- The value is a whole number outside the range of the shape's words. -/
  | range (n : Int)
  /-- The value has the right form, and is refused as an identifier. -/
  | refused (e : Error)

namespace Shape

/-- What a shape is looking for. -/
def expected : Shape → String
  | unsigned => "u64"
  | signed => "i64"
  | string => "a decimal id string"

/-- The value that stores an identifier. -/
def encode : Shape → Flake → Json
  | unsigned, id => .number (.whole id.raw.toNat)
  | signed, id => .number (.whole id.toInt64.toInt)
  | string, id => .string id.text

/-- The identifier of an unsigned number. -/
def ofUnsigned (n : Int) : Except Mismatch Flake :=
  if 0 ≤ n ∧ n < 18446744073709551616 then (Flake.ofWord (UInt64.ofNat n.toNat)).mapError .refused
  else .error (.range n)

/-- The identifier of a signed number. -/
def ofSigned (n : Int) : Except Mismatch Flake :=
  if -9223372036854775808 ≤ n ∧ n < 9223372036854775808 then
    (Flake.ofInt64 (Int64.ofInt n)).mapError .refused
  else .error (.range n)

/-- The identifier that a value stores. -/
def decode : Shape → Json → Except Mismatch Flake
  | unsigned, .number (.whole n) => ofUnsigned n
  | signed, .number (.whole n) => ofSigned n
  | string, .string s => (Flake.parse s).mapError .refused
  | _, v => .error (.form v)

/-- A value by its form. -/
def formText : Json → String
  | .null => "null"
  | .bool b => "boolean " ++ (if b then "\x60true\x60" else "\x60false\x60")
  | .number (.whole n) => "integer \x60" ++ Decimal.signedText n ++ "\x60"
  | .number (.real x) => "floating point \x60" ++ x.text ++ "\x60"
  | .string s => "string " ++ Quoted.text s
  | .array _ => "sequence"
  | .object _ => "map"

/-- The sentence shown for a value that is no identifier. -/
def Mismatch.message (shape : Shape) : Mismatch → String
  | .form found => "invalid type: " ++ formText found ++ ", expected " ++ shape.expected
  | .range n =>
    "invalid value: " ++ formText (.number (.whole n)) ++ ", expected " ++ shape.expected
  | .refused e => e.message

end Shape

end Snowflake
