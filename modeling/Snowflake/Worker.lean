import Snowflake.Error
import Snowflake.Text.Blank

/-!
# `Snowflake.Worker`: the number of a worker

Every running generator holds a worker number that no other one with the same
epoch holds, and writes it into each identifier. The number has ten bits;
`WorkerId` carries the bound.
-/

set_option autoImplicit false

namespace Snowflake

/-- A worker number, from 0 to 1023. -/
structure WorkerId where
  /-- The number itself. -/
  val : Nat
  /-- It has ten bits. -/
  val_le : val ≤ 1023
deriving DecidableEq, Repr

namespace WorkerId

open Text

/-- The largest worker number. -/
def max : Nat := 1023

/-- The worker of a number, refused when the number is too large. -/
def new (value : Nat) : Except Error WorkerId :=
  if h : value ≤ 1023 then .ok ⟨value, h⟩ else .error (.invalidWorkerId value max)

/-- Reads a worker number. The blanks around it do not count; the message for
a bad text shows the text with them. -/
def parse (s : String) : Except Error WorkerId :=
  match Decimal.read (trim s.toList) with
  | .ok value => new value
  | .error flaw =>
    .error (.workerIdUnavailable (Quoted.text s ++ " is not a worker id: " ++ flaw.message))

/-- The number as text. -/
def text (w : WorkerId) : String := Decimal.text w.val

/-- The number with the name of its type around it. -/
def describe (w : WorkerId) : String := "WorkerId(" ++ w.text ++ ")"

/-- The number of a worker is accepted, and gives the worker back. -/
theorem new_val (w : WorkerId) : new w.val = .ok w := by simp [new, w.val_le]

/-- Exactly the number of a worker is accepted for it. -/
theorem new_eq_ok_iff {value : Nat} {w : WorkerId} : new value = .ok w ↔ w.val = value := by
  constructor
  · intro h
    unfold new at h
    split at h
    · cases h
      rfl
    · simp at h
  · rintro rfl
    exact new_val w

/-- What is refused is too large, and the error names it with the bound. -/
theorem new_eq_error_iff {value : Nat} {e : Error} :
    new value = .error e ↔ 1023 < value ∧ e = .invalidWorkerId value max := by
  unfold new
  split
  · rename_i hle
    exact iff_of_false nofun fun h => Nat.not_lt_of_le hle h.1
  · rename_i hlarge
    simp [Nat.lt_of_not_le hlarge, eq_comm]

end WorkerId

end Snowflake
