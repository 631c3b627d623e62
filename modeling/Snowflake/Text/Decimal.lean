/-!
# `Snowflake.Text.Decimal`: numbers written in ten digits

* `digits` writes a number without leading zeros, `padded` fills it up with
  zeros to a width.
* `read` reads a numeral: one optional `+`, then one or more ASCII digits,
  with a value below `2 ^ 64`. The first thing wrong, from the left, decides
  the `Flaw`.

`read_digits` ties the two together: what `digits` writes reads back as the
number.
-/

set_option autoImplicit false

namespace Snowflake.Text.Decimal

/-- The digits of a number, the most significant first. -/
def digits (n : Nat) : List Char :=
  if n < 10 then [Nat.digitChar n] else digits (n / 10) ++ [Nat.digitChar (n % 10)]
termination_by n
decreasing_by omega

/-- The digits of a number with zeros in front up to the width. -/
def padded (width n : Nat) : List Char :=
  List.replicate (width - (digits n).length) '0' ++ digits n

/-- A number as text. -/
def text (n : Nat) : String := String.ofList (digits n)

/-- An integer as text, with a minus sign in front when it is negative. -/
def signedText (n : Int) : String :=
  if n < 0 then "-" ++ text n.natAbs else text n.natAbs

/-- The value of an ASCII digit. -/
def digitValue? (c : Char) : Option Nat :=
  if '0' ≤ c ∧ c ≤ '9' then some (c.toNat - 48) else none

/-- Why a text is no numeral of a 64-bit word. -/
inductive Flaw
  /-- There is nothing to read. -/
  | empty
  /-- A character is no digit, or a sign stands alone. -/
  | invalidDigit
  /-- The value does not fit in 64 bits. -/
  | tooLarge
deriving DecidableEq, Repr

/-- The sentence shown for a flaw. -/
def Flaw.message : Flaw → String
  | .empty => "cannot parse integer from empty string"
  | .invalidDigit => "invalid digit found in string"
  | .tooLarge => "number too large to fit in target type"

/-- Reads digits behind the value read so far. A character that is no digit
counts before the overflow that its place would cause. -/
def readDigits : Nat → List Char → Except Flaw Nat
  | acc, [] => .ok acc
  | acc, c :: cs =>
    match digitValue? c with
    | none => .error .invalidDigit
    | some d =>
      if acc * 10 + d < UInt64.size then readDigits (acc * 10 + d) cs else .error .tooLarge

/-- Reads a numeral. A lone `+` falls through to the digits, where it is
invalid. -/
def read : List Char → Except Flaw Nat
  | [] => .error .empty
  | '+' :: c :: cs => readDigits 0 (c :: cs)
  | cs => readDigits 0 cs

/-! ### What is written reads back -/

/-- A number below ten is one digit. -/
theorem digits_of_lt {n : Nat} (h : n < 10) : digits n = [Nat.digitChar n] := by
  rw [digits, if_pos h]

/-- Any other number ends in its last digit, behind the digits of the rest. -/
theorem digits_of_ge {n : Nat} (h : 10 ≤ n) :
    digits n = digits (n / 10) ++ [Nat.digitChar (n % 10)] := by
  rw [digits, if_neg (by omega)]

/-- A numeral is never empty, not even that of zero. -/
theorem digits_ne_nil (n : Nat) : digits n ≠ [] := by
  rw [digits]
  split <;> simp

/-- A digit's character has the digit's value. -/
theorem digitValue?_digitChar {d : Nat} (h : d < 10) :
    digitValue? (Nat.digitChar d) = some d := by
  have : ∀ d : Fin 10, digitValue? (Nat.digitChar d) = some d.val := by decide
  exact this ⟨d, h⟩

/-- Reading one more digit at the end of a text that reads well. -/
theorem readDigits_append_digit {acc m d : Nat} {cs : List Char} (h : readDigits acc cs = .ok m)
    (hd : d < 10) (hm : m * 10 + d < UInt64.size) :
    readDigits acc (cs ++ [Nat.digitChar d]) = .ok (m * 10 + d) := by
  induction cs generalizing acc with
  | nil =>
      cases h
      simp [readDigits, digitValue?_digitChar hd, hm]
  | cons c cs ih =>
      rw [List.cons_append, readDigits]
      rw [readDigits] at h
      split at h
      · simp at h
      · split at h
        · rename_i hlt
          rw [if_pos hlt]
          exact ih h
        · simp at h

/-- The digits of a 64-bit number read back as the number. -/
theorem readDigits_digits {n : Nat} (h : n < UInt64.size) : readDigits 0 (digits n) = .ok n := by
  induction n using Nat.strongRecOn with
  | _ n ih =>
      by_cases hn : n < 10
      · have h64 : n < UInt64.size := h
        simp [digits_of_lt hn, readDigits, digitValue?_digitChar hn, h64]
      · rw [digits_of_ge (by omega)]
        have hdiv : n / 10 * 10 + n % 10 = n := by omega
        have hread := ih (n / 10) (by omega) (by omega)
        have := readDigits_append_digit hread (d := n % 10) (by omega) (by omega)
        rw [this, hdiv]

/-- A numeral starts with a digit, so it is not taken for a sign. -/
theorem digits_head_ne_plus (n : Nat) : ∀ c ∈ (digits n).head?, c ≠ '+' := by
  induction n using Nat.strongRecOn with
  | _ n ih =>
      intro c hc
      by_cases hn : n < 10
      · rw [digits_of_lt hn] at hc
        have hne : ∀ d : Fin 10, Nat.digitChar d ≠ '+' := by decide
        have := hne ⟨n, hn⟩
        simp only [List.head?_cons, Option.mem_def, Option.some.injEq] at hc
        exact hc ▸ this
      · rw [digits_of_ge (by omega)] at hc
        match hd : digits (n / 10), digits_ne_nil (n / 10) with
        | d :: ds, _ =>
            rw [hd] at hc
            exact ih (n / 10) (by omega) c (by simpa [hd] using hc)

/-- A text that does not start with `+` is read digit by digit. -/
theorem read_eq_readDigits {cs : List Char} (hne : cs ≠ []) (hplus : ∀ c ∈ cs.head?, c ≠ '+') :
    read cs = readDigits 0 cs := by
  match cs, hne with
  | c :: cs, _ =>
      have hc : c ≠ '+' := hplus c (by simp)
      rw [read]
      · simp
      · intro d ds heq
        cases heq
        exact hc rfl

/-- What `digits` writes, `read` reads back. -/
theorem read_digits {n : Nat} (h : n < UInt64.size) : read (digits n) = .ok n := by
  rw [read_eq_readDigits (digits_ne_nil n) (digits_head_ne_plus n), readDigits_digits h]

end Snowflake.Text.Decimal
