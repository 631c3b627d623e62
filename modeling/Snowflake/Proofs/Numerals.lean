import Mathlib.Algebra.Group.Int.Defs
import Mathlib.Algebra.Group.Nat.Defs
import Mathlib.Data.List.Basic
import Snowflake.Text.Blank
import Snowflake.Text.Decimal

/-!
# `Snowflake.Proofs.Numerals`: numerals with zeros in front

An identifier is written in decimal in two ways: without leading zeros
(`digits`) and filled up with zeros to a width (`padded`). Both are made of
ASCII digits only, so `Text.trim` takes nothing off and no sign is seen in
front. `read_padded` shows that the zeros do not count: a padded numeral reads
back as its number, as `read_digits` shows of a plain one.

`padded_add_two` is the equation that the proofs about padded numerals use. It
takes off the last digit, as the recursion of `digits` does. It needs one digit
to be left, because even the number zero is written with a digit.
-/

set_option autoImplicit false

namespace Snowflake.Text

/-- A digit is no blank. -/
theorem isBlank_of_isDigit {c : Char} (h : c.isDigit = true) : isBlank c = false := by
  have hrange : 48 ≤ c.toNat ∧ c.toNat ≤ 57 := Char.isDigit_iff_toNat.mp h
  have hapart : ∀ r ∈ blankRanges, r.2 < 48 ∨ 57 < r.1 := by decide
  rw [isBlank, Bool.eq_false_iff, Ne, inRanges_iff]
  rintro ⟨r, hr, hfirst, hlast⟩
  rcases hapart r hr with hbelow | habove
  · omega
  · omega

/-- A text of digits has no blanks around it. -/
theorem trim_eq_self_of_isDigit {cs : List Char} (h : ∀ c ∈ cs, c.isDigit = true) :
    trim cs = cs :=
  trim_eq_self (fun c hc => isBlank_of_isDigit (h c (List.mem_of_mem_head? hc)))
    fun c hc => isBlank_of_isDigit (h c (List.mem_of_mem_getLast? hc))

namespace Decimal

/-- The value of a character, with the test for digits that the library has. -/
theorem digitValue?_eq (c : Char) :
    digitValue? c = if c.isDigit then some (c.toNat - 48) else none := by
  have hiff : ('0' ≤ c ∧ c ≤ '9') ↔ c.isDigit = true := by
    rw [Char.isDigit_iff_toNat]
    exact Iff.rfl
  simp only [digitValue?, hiff]

/-- A numeral is made of digits, by the recursion that takes off the last one. -/
theorem isDigit_of_mem_digits (n : Nat) : ∀ c ∈ digits n, c.isDigit = true := by
  induction n using Nat.strongRecOn with
  | _ n ih =>
      intro c hc
      by_cases hn : n < 10
      · rw [digits_of_lt hn, List.mem_singleton] at hc
        rw [hc, Nat.isDigit_digitChar]
        exact decide_eq_true hn
      · rw [digits_of_ge (by omega), List.mem_append, List.mem_singleton] at hc
        rcases hc with hmem | rfl
        · exact ih (n / 10) (by omega) c hmem
        · rw [Nat.isDigit_digitChar]
          exact decide_eq_true (by omega)

/-- A numeral has a first digit. -/
theorem digits_eq_cons (n : Nat) : ∃ c cs, digits n = c :: cs ∧ c.isDigit = true := by
  have hdigits := isDigit_of_mem_digits n
  match hn : digits n, digits_ne_nil n with
  | c :: cs, _ => exact ⟨c, cs, rfl, hdigits c (hn ▸ .head _)⟩

/-- A number as text is its numeral. -/
theorem toList_text (n : Nat) : (text n).toList = digits n := by
  rw [text, String.toList_ofList]

/-- A number that is not negative is written without a sign. -/
theorem toList_signedText_of_nonneg {n : Int} (h : 0 ≤ n) :
    (signedText n).toList = digits n.natAbs := by
  rw [signedText, if_neg (Int.not_lt.mpr h), toList_text]

/-- A negative one is written with a minus sign in front. -/
theorem toList_signedText_of_neg {n : Int} (h : n < 0) :
    (signedText n).toList = '-' :: digits n.natAbs := by
  rw [signedText, if_pos h, String.toList_append, toList_text]
  rfl

/-- A numeral has no leading zero. -/
theorem digits_head_pos {n : Nat} (h : 0 < n) : ∀ c ∈ (digits n).head?, 48 < c.toNat := by
  induction n using Nat.strongRecOn with
  | _ n ih =>
      by_cases hn : n < 10
      · -- One digit: of the ten only zero is no greater than the character of
        -- zero.
        have hall : ∀ d : Fin 10, 0 < d.val → 48 < (Nat.digitChar d).toNat := by decide
        rw [digits_of_lt hn]
        rintro c ⟨⟩
        exact hall ⟨n, hn⟩ h
      · rw [digits_of_ge (by omega), List.head?_append_of_ne_nil _ (digits_ne_nil _)]
        exact ih (n / 10) (by omega) (by omega)

/-- The zeros in front are digits too. -/
theorem isDigit_of_mem_padded {width n : Nat} {c : Char} (h : c ∈ padded width n) :
    c.isDigit = true := by
  rcases List.mem_append.mp h with hzero | hdigit
  · rw [List.eq_of_mem_replicate hzero]
    rfl
  · exact isDigit_of_mem_digits n c hdigit

/-- One digit needs no zeros. -/
theorem padded_one {n : Nat} (h : n < 10) : padded 1 n = [Nat.digitChar n] := by
  rw [padded, digits_of_lt h]
  rfl

/-- The last digit of a padded numeral, and the digits before it. -/
theorem padded_add_two (width n : Nat) :
    padded (width + 2) n = padded (width + 1) (n / 10) ++ [Nat.digitChar (n % 10)] := by
  unfold padded
  by_cases hn : n < 10
  · have hquotient : n / 10 = 0 := by omega
    have hrest : n % 10 = n := by omega
    rw [digits_of_lt hn, hquotient, hrest, digits_of_lt (by omega)]
    -- The zero that stands for the quotient is one of the zeros in front.
    show List.replicate (width + 1) '0' ++ [Nat.digitChar n]
      = List.replicate width '0' ++ ['0'] ++ [Nat.digitChar n]
    rw [List.replicate_succ']
  · -- The quotient has one digit less, and one place less is left for it.
    have hlength : (digits n).length = (digits (n / 10)).length + 1 := by
      rw [digits_of_ge (Nat.le_of_not_lt hn), List.length_append, List.length_singleton]
    have hzeros : width + 2 - (digits n).length = width + 1 - (digits (n / 10)).length := by
      omega
    rw [hzeros, digits_of_ge (Nat.le_of_not_lt hn), List.append_assoc]

/-- A number that fits is written in exactly as many digits as the width
says. -/
theorem length_padded {width n : Nat} (h : n < 10 ^ (width + 1)) :
    (padded (width + 1) n).length = width + 1 := by
  induction width generalizing n with
  | zero => rw [padded_one h, List.length_singleton]
  | succ width ih =>
      -- What is left of the number fits in one digit less.
      have hquotient : n / 10 < 10 ^ (width + 1) := by
        rw [Nat.pow_succ] at h
        omega
      rw [padded_add_two, List.length_append, ih hquotient, List.length_singleton]

/-- Digit by digit, a padded numeral is read as its number. -/
theorem readDigits_padded (width : Nat) {n : Nat} (h : n < UInt64.size) :
    readDigits 0 (padded (width + 1) n) = .ok n := by
  induction width generalizing n with
  | zero =>
      by_cases hn : n < 10
      · rw [padded_one hn, ← digits_of_lt hn]
        exact readDigits_digits h
      · -- The numeral is wider than the width, and there are no zeros.
        have hwide : 1 ≤ (digits n).length := List.length_pos_iff.mpr (digits_ne_nil n)
        have hnone : padded 1 n = digits n := by
          rw [padded, Nat.sub_eq_zero_of_le hwide]
          rfl
        rw [hnone]
        exact readDigits_digits h
  | succ width ih =>
      have hread := ih (n := n / 10) (by omega)
      have hvalue : n / 10 * 10 + n % 10 = n := by omega
      have happend := readDigits_append_digit hread (d := n % 10) (by omega) (by omega)
      rw [padded_add_two, happend, hvalue]

/-- A text of digits is read digit by digit. -/
theorem read_of_isDigit {cs : List Char} (hne : cs ≠ []) (h : ∀ c ∈ cs, c.isDigit = true) :
    read cs = readDigits 0 cs := by
  refine read_eq_readDigits hne fun c hc => ?_
  have hdigit := h c (List.mem_of_mem_head? hc)
  rintro rfl
  exact absurd hdigit (by decide)

/-- The zeros in front do not count. -/
theorem read_padded (width : Nat) {n : Nat} (h : n < UInt64.size) :
    read (padded (width + 1) n) = .ok n := by
  have hne : padded (width + 1) n ≠ [] := List.append_ne_nil_of_right_ne_nil _ (digits_ne_nil n)
  rw [read_of_isDigit hne fun c hc => isDigit_of_mem_padded hc, readDigits_padded width h]

end Decimal

end Snowflake.Text
