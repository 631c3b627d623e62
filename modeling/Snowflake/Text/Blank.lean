import Snowflake.Text.CodePoints

/-!
# `Snowflake.Text.Blank`: blanks and trimming

A blank is a character with the property White_Space. Numbers that people type
or that a deployment passes in are read after the blanks on both sides are
taken off.
-/

set_option autoImplicit false

namespace Snowflake.Text

/-- The code points with the property White_Space, as closed ranges in
increasing order. -/
def blankRanges : List (Nat × Nat) :=
  [(0x9, 0xD), (0x20, 0x20), (0x85, 0x85), (0xA0, 0xA0), (0x1680, 0x1680), (0x2000, 0x200A),
   (0x2028, 0x2029), (0x202F, 0x202F), (0x205F, 0x205F), (0x3000, 0x3000)]

/-- A character that counts as blank. -/
def isBlank (c : Char) : Bool := inRanges blankRanges c.toNat

/-- The text without the blanks at its end. -/
def trimEnd (cs : List Char) : List Char := (cs.reverse.dropWhile isBlank).reverse

/-- The text without the blanks on either side. -/
def trim (cs : List Char) : List Char := trimEnd (cs.dropWhile isBlank)

/-- A text whose first and last characters are not blank is left alone. -/
theorem trim_eq_self {cs : List Char} (hhead : ∀ c ∈ cs.head?, isBlank c = false)
    (hlast : ∀ c ∈ cs.getLast?, isBlank c = false) : trim cs = cs := by
  have drop_self : ∀ l : List Char, (∀ c ∈ l.head?, isBlank c = false) →
      l.dropWhile isBlank = l := by
    intro l h
    cases l with
    | nil => rfl
    | cons c l => simp [h c (by simp)]
  rw [trim, drop_self cs hhead, trimEnd, drop_self cs.reverse, List.reverse_reverse]
  simpa [List.head?_reverse] using hlast

end Snowflake.Text
