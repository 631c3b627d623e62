import Snowflake.Binary64
import Snowflake.Text.Decimal

/-!
# `Snowflake.Binary64.Shortest`: the fewest decimal digits that stand for a number

Every number is the rounding of all decimals in an interval around it. The
shortest decimal in it is written: grids of one, two, three and more digits
are tried in turn, and on each the two neighbours of the number. The first
grid with a neighbour in the interval gives the digits; of two, the nearer.

`Binary64.text` lays the digits out. Between `0.00001` and ten to the
sixteenth the point stands where it belongs, and a whole number ends in `.0`;
outside, an exponent with its sign follows the digits.
-/

set_option autoImplicit false

namespace Snowflake

namespace Magnitude

/-- `digits * 10 ^ exponent`. -/
structure Decimal where
  /-- The digits. -/
  digits : Nat
  /-- The power of ten that the last digit counts. -/
  exponent : Int
deriving DecidableEq, Repr

/-- The value in quarters of the last binary digit, and the ends of the
interval that rounds to it. The numbers below a power of two lie twice as
dense. -/
def interval (m : Magnitude) : Nat × Nat × Nat :=
  -- Halfway to the number above is two quarters up. Halfway to the one below is
  -- as far down, or half of that below a power of two.
  let low :=
    if m.mantissa = 1 <<< 52 ∧ minExponent < m.exponent then 4 * m.mantissa - 1
    else 4 * m.mantissa - 2
  (low, 4 * m.mantissa, 4 * m.mantissa + 2)

/-- `d * 10 ^ exponent` and `q * 2 ^ (m.exponent - 2)` over a common denominator. -/
def aligned (m : Magnitude) (exponent : Int) (d q : Nat) : Nat × Nat :=
  let e := m.exponent - 2
  ((d * Nat.pow 10 exponent.toNat) <<< (-e).toNat, (q * Nat.pow 10 (-exponent).toNat) <<< e.toNat)

/-- The decimal lies in the interval. The ends belong to it when the mantissa
is even. -/
def holds (m : Magnitude) (d : Decimal) : Bool :=
  let (low, _, high) := m.interval
  let below := m.aligned d.exponent d.digits low
  let above := m.aligned d.exponent d.digits high
  if m.mantissa % 2 = 0 then decide (below.2 ≤ below.1) && decide (above.1 ≤ above.2)
  else decide (below.2 < below.1) && decide (above.1 < above.2)

/-- The multiple of `10 ^ exponent` at or below the value, in that unit. -/
def floorAt (m : Magnitude) (exponent : Int) : Nat :=
  let (unit, value) := m.aligned exponent 1 (4 * m.mantissa)
  value / unit

/-- The upper one of two neighbours on a grid is the nearer one; halfway, the
even one counts. -/
def prefersUpper (m : Magnitude) (exponent : Int) : Bool :=
  let (unit, value) := m.aligned exponent 1 (4 * m.mantissa)
  let r := value % unit
  decide (unit < 2 * r) || (decide (2 * r = unit) && decide (value / unit % 2 = 1))

/-- The neighbour on a grid that lies in the interval, the nearer one if both
do. -/
def neighbour? (m : Magnitude) (exponent : Int) : Option Decimal :=
  let low : Decimal := ⟨m.floorAt exponent, exponent⟩
  let high : Decimal := ⟨m.floorAt exponent + 1, exponent⟩
  if m.holds low && m.holds high then some (if m.prefersUpper exponent then high else low)
  else if m.holds low then some low
  else if m.holds high then some high
  else none

/-- The power of ten of the first decimal digit, found upward from a place
below it. -/
def leadingDecimal (m : Magnitude) : Nat → Int → Int
  | 0, e => e
  | n + 1, e => if m.floorAt (e + 1) = 0 then e else leadingDecimal m n (e + 1)

/-- The first grid from the given one on, each ten times finer, with a
neighbour in the interval. -/
def finer (m : Magnitude) : Nat → Int → Option Decimal
  | 0, _ => none
  | n + 1, e =>
    match m.neighbour? e with
    | some d => some d
    | none => finer m n (e - 1)

/-- The shortest decimal in the interval. Seventeen digits always suffice. -/
def shortest (m : Magnitude) : Decimal :=
  if m.mantissa = 0 then ⟨0, 0⟩
  else
    -- No magnitude has its first digit below this place, and 640 places further
    -- up is past the largest one.
    let first := m.leadingDecimal 640 (-324)
    (m.finer 17 first).getD ⟨m.floorAt (first - 16), first - 16⟩

end Magnitude

namespace Binary64

open Text

/-- The digits of a decimal without the zeros at their end. A single zero
stays. -/
def significant (digits : Nat) : List Char :=
  match ((Decimal.digits digits).reverse.dropWhile (· = '0')).reverse with
  | [] => ['0']
  | ds => ds

/-- An exponent behind an `e`: its sign and its digits. -/
def exponentText (e : Int) : List Char :=
  ['e', if e < 0 then '-' else '+'] ++ Decimal.digits e.natAbs

/-- Digits laid out with the first one at the given power of ten. -/
def layout (ds : List Char) (first : Int) : List Char :=
  let whole := first.toNat + 1
  if 15 < first ∨ first < -5 then
    match ds with
    | [d] => d :: exponentText first
    | d :: rest => d :: '.' :: rest ++ exponentText first
    | [] => []
  else if first < 0 then '0' :: '.' :: List.replicate (-first - 1).toNat '0' ++ ds
  else if ds.length ≤ whole then ds ++ List.replicate (whole - ds.length) '0' ++ ['.', '0']
  else ds.take whole ++ '.' :: ds.drop whole

/-- A number in the fewest digits that stand for it. -/
def text (x : Binary64) : String :=
  let d := x.magnitude.shortest
  let first := d.exponent + ((Decimal.digits d.digits).length - 1 : Nat)
  String.ofList ((if x.negative then ['-'] else []) ++ layout (significant d.digits) first)

end Binary64

end Snowflake
