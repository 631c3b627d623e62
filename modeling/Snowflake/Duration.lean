import Snowflake.Text.Decimal

/-!
# `Snowflake.Duration`: lengths of time

A length of time is a whole number of nanoseconds. Clocks and budgets count in
milliseconds, so the module converts both ways; `text` writes a length in the
largest unit that it reaches, with as many decimals as it has.
-/

set_option autoImplicit false

namespace Snowflake

/-- A length of time. -/
structure Duration where
  /-- Its nanoseconds. -/
  nanos : Nat
deriving DecidableEq, Repr, Inhabited

namespace Duration

/-- A number of nanoseconds in a millisecond. -/
def nanosPerMilli : Nat := 1000000

/-- A number of nanoseconds in a second. -/
def nanosPerSecond : Nat := 1000000000

/-- A whole number of milliseconds. -/
def ofMillis (ms : Nat) : Duration := ⟨ms * nanosPerMilli⟩

/-- A number of seconds and of nanoseconds beside them. -/
def ofSeconds (secs nanos : Nat) : Duration := ⟨secs * nanosPerSecond + nanos⟩

/-- The whole milliseconds in a length of time. -/
def millis (d : Duration) : Nat := d.nanos / nanosPerMilli

instance : LE Duration := ⟨fun a b => a.nanos ≤ b.nanos⟩
instance : LT Duration := ⟨fun a b => a.nanos < b.nanos⟩
instance (a b : Duration) : Decidable (a ≤ b) := inferInstanceAs (Decidable (a.nanos ≤ b.nanos))
instance (a b : Duration) : Decidable (a < b) := inferInstanceAs (Decidable (a.nanos < b.nanos))
instance : Min Duration := ⟨fun a b => if a ≤ b then a else b⟩
instance : Add Duration := ⟨fun a b => ⟨a.nanos + b.nanos⟩⟩

/-- What is left of the first length after the second, nothing when the second
is longer. -/
instance : Sub Duration := ⟨fun a b => ⟨a.nanos - b.nanos⟩⟩

/-- Lengths of time compare as their nanoseconds do. -/
@[simp] theorem le_iff {a b : Duration} : a ≤ b ↔ a.nanos ≤ b.nanos := Iff.rfl

/-- A length of time is shorter exactly if it has fewer nanoseconds. -/
@[simp] theorem lt_iff {a b : Duration} : a < b ↔ a.nanos < b.nanos := Iff.rfl

/-- A longer time, taken from a shorter one, leaves nothing. -/
@[simp] theorem nanos_sub (a b : Duration) : (a - b).nanos = a.nanos - b.nanos := rfl

/-- A sum has no bound. -/
@[simp] theorem nanos_add (a b : Duration) : (a + b).nanos = a.nanos + b.nanos := rfl

/-- The shorter one has the fewer nanoseconds. -/
@[simp] theorem nanos_min (a b : Duration) : (min a b).nanos = min a.nanos b.nanos := by
  show (if a ≤ b then a else b).nanos = _
  simp only [le_iff]
  split <;> omega

/-- A longer time has no fewer whole milliseconds. -/
theorem millis_le_millis {a b : Duration} (h : a ≤ b) : a.millis ≤ b.millis :=
  Nat.div_le_div_right h

/-- Whole milliseconds survive the way there and back. -/
@[simp] theorem millis_ofMillis (ms : Nat) : (ofMillis ms).millis = ms := by
  simp [ofMillis, millis, nanosPerMilli]

/-- The decimals of a fraction: the digits at the given width, less the zeros
at the end. -/
def decimals (width n : Nat) : List Char :=
  ((Text.Decimal.padded width n).reverse.dropWhile (· = '0')).reverse

/-- A value of `whole` units and `part` in `10 ^ places` of one, with the unit
behind it. -/
def written (whole part places : Nat) (unit : String) : String :=
  let fraction := decimals places part
  Text.Decimal.text whole
    ++ (if fraction.isEmpty then "" else "." ++ String.ofList fraction) ++ unit

/-- A length of time in seconds, milliseconds, microseconds or nanoseconds,
whichever is the largest unit that it reaches. -/
def text (d : Duration) : String :=
  let n := d.nanos
  if nanosPerSecond ≤ n then written (n / 1000000000) (n % 1000000000) 9 "s"
  else if nanosPerMilli ≤ n then written (n / 1000000) (n % 1000000) 6 "ms"
  else if 1000 ≤ n then written (n / 1000) (n % 1000) 3 "µs"
  else written n 0 0 "ns"

example : (ofSeconds 1 500000000).text = "1.5s" := by decide +kernel
example : (ofSeconds 0 613270).text = "613.27µs" := by decide +kernel
example : (ofSeconds 0 0).text = "0ns" := by decide +kernel

end Duration

end Snowflake
