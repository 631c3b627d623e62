/-!
# `Snowflake.Binary64`: floating point numbers of 64 bits

A finite number is a sign and a magnitude, and a magnitude is `mantissa * 2 ^
exponent` with at most 53 bits of mantissa. Every operation gives the exact
result rounded to the nearest number; of two that are equally near, the one
with the even mantissa. A result past the largest number is no number.

`Binary64.ofDecimal` is how a decimal literal with many digits or with an
exponent becomes a number: it takes the digits that fit into a word and scales
them by powers of ten, rounding at each step.
-/

set_option autoImplicit false

namespace Snowflake

/-- The size of a number, `mantissa * 2 ^ exponent`. A magnitude that rounding gives has 53 bits of
mantissa, or fewer and the least exponent. -/
structure Magnitude where
  /-- The digits in base two. -/
  mantissa : Nat
  /-- The weight of the last one. -/
  exponent : Int
deriving DecidableEq, Repr

namespace Magnitude

/-- The least exponent. -/
def minExponent : Int := -1074

/-- The largest exponent. -/
def maxExponent : Int := 971

/-- Nothing. -/
def zero : Magnitude := ⟨0, minExponent⟩

/-- The quotient rounded to a whole number, a half to the even neighbour. -/
def roundedQuotient (num den : Nat) : Nat :=
  let q := num / den
  let r := num % den
  if den < 2 * r ∨ (2 * r = den ∧ q % 2 = 1) then q + 1 else q

/-- `num / den * 2 ^ -exponent`, as a numerator and a denominator. -/
def scaled (num den : Nat) (exponent : Int) : Nat × Nat :=
  (num <<< (-exponent).toNat, den <<< exponent.toNat)

/-- The exponent of the highest binary digit of a quotient of two positive
numbers. -/
def leading (num den : Nat) : Int :=
  let e : Int := Int.ofNat num.log2 - Int.ofNat den.log2
  let (n, d) := scaled num den e
  if d ≤ n then e else e - 1

/-- The magnitude nearest to a quotient. -/
def ofQuotient (num den : Nat) : Option Magnitude :=
  if num = 0 then some zero
  else
    let e := max minExponent (leading num den - 52)
    let (n, d) := scaled num den e
    let q := roundedQuotient n d
    -- Rounding up may carry into one more binary digit.
    let m : Magnitude := if q = 1 <<< 53 then ⟨1 <<< 52, e + 1⟩ else ⟨q, e⟩
    if maxExponent < m.exponent then none else some m

/-- The magnitude nearest to a whole number. -/
def ofNat (n : Nat) : Option Magnitude := ofQuotient n 1

/-- The rounded product. -/
def mul (a b : Magnitude) : Option Magnitude :=
  let (n, d) := scaled (a.mantissa * b.mantissa) 1 (-(a.exponent + b.exponent))
  ofQuotient n d

/-- The rounded quotient. -/
def div (a b : Magnitude) : Option Magnitude :=
  let (n, d) := scaled a.mantissa b.mantissa (b.exponent - a.exponent)
  ofQuotient n d

/-- The largest power of ten that a scaling step uses. -/
def maxScale : Nat := 308

/-- A magnitude times a power of ten. Far below one, the magnitude is first
divided by the largest power until the rest of the scaling is one division, or
nothing is left. -/
def scale (m : Magnitude) (exponent : Int) : Option Magnitude :=
  if _h : -(maxScale : Int) ≤ exponent ∧ exponent ≤ maxScale then
    (ofNat (Nat.pow 10 exponent.natAbs)).bind fun power =>
      if 0 ≤ exponent then m.mul power else m.div power
  else if m.mantissa = 0 then some zero
  -- Even the smallest magnitude that digits give is too large here.
  else if _hpos : 0 ≤ exponent then none
  else
    (ofNat (Nat.pow 10 maxScale)).bind fun power =>
      (m.div power).bind fun m => scale m (exponent + maxScale)
termination_by exponent.natAbs
decreasing_by
  simp only [maxScale] at _h ⊢
  omega

end Magnitude

/-- A finite number. -/
structure Binary64 where
  /-- It carries a minus sign, which zero may too. -/
  negative : Bool
  /-- Its size. -/
  magnitude : Magnitude
deriving DecidableEq, Repr

namespace Binary64

/-- The number that a decimal literal stands for: its sign, its digits as a
whole number, and the power of ten that the last digit counts. There is none
when it is too large. -/
def ofDecimal (negative : Bool) (digits : Nat) (exponent : Int) : Option Binary64 :=
  (Magnitude.ofNat digits).bind fun m => (m.scale exponent).map (⟨negative, ·⟩)

end Binary64

end Snowflake
