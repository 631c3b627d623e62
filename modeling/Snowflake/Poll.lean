import Snowflake.Flake

/-!
# `Snowflake.Poll`: one look at the clock

A generator is asked for an identifier by a poll. A poll compares one clock
reading with the last issued identifier, and `judge` is the whole rule:

* the same millisecond: the next sequence number, or `pending` when the 4096
  numbers are used up;
* a later millisecond: the first identifier in it, or an error past the last
  timestamp;
* an earlier one: `behind`, with the distance.

Whatever lets callers share a generator (`Snowflake.Generator`) is built
around this rule.
-/

set_option autoImplicit false

namespace Snowflake

/-- What a clock gives when it is read: milliseconds since its epoch, or a
panic. -/
inductive Reading
  /-- Milliseconds since the epoch. -/
  | millis (n : Nat)
  /-- The clock panics. -/
  | failure
deriving DecidableEq, Repr, Inhabited

/-- Why a caller panics. -/
inductive Panic
  /-- A field did not fit when an identifier was packed. -/
  | overflow (field : Field)
  /-- The clock panicked while it was read. -/
  | clock
deriving DecidableEq, Repr

/-- The report of a panic. -/
def Panic.message : Panic → String
  | .overflow field => field.overflowText
  | .clock => "clock failure"

/-- Why a call gives nothing: an error that it returns, or a panic that
unwinds it. -/
inductive Fault
  /-- An error returned to the caller. -/
  | error (e : Error)
  /-- A panic. -/
  | panic (p : Panic)
deriving DecidableEq, Repr

/-- What a poll answers when nothing goes wrong. -/
inductive Status
  /-- A new identifier. -/
  | ready (id : Flake)
  /-- The millisecond is used up; it ends in at most so many milliseconds. -/
  | pending (yieldFor : Nat)
  /-- The clock is behind the last issued timestamp by so many
  milliseconds. -/
  | behind (drift : Nat)
deriving DecidableEq, Repr

/-- An identifier was issued. -/
def Status.isReady : Status → Bool
  | .ready _ => true
  | _ => false

/-- How one poll ends. -/
abbrev PollResult := Except Fault Status

/-- What the rule makes of a reading: an identifier to put in place of the
last one, or an answer that leaves the last one alone. -/
inductive Verdict
  /-- The identifier to issue next. -/
  | issue (next : Flake)
  /-- Nothing is issued. -/
  | answer (s : Status)
deriving DecidableEq, Repr

/-- A packed identifier as a verdict. A field that does not fit panics. -/
def Verdict.ofPacked : Except Field Flake → Except Fault Verdict
  | .ok next => .ok (.issue next)
  | .error field => .error (.panic (.overflow field))

/-- The rule of a poll: the last issued identifier against a clock reading. -/
def judge (last : Flake) (now : Nat) : Except Fault Verdict :=
  if now = last.timestamp then
    if last.hasRoom then Verdict.ofPacked last.increment else .ok (.answer (.pending 1))
  else if last.timestamp < now then
    if Flake.maxTimestamp < now then .error (.error (.timestampOverflow now))
    else Verdict.ofPacked (last.rollover now)
  else .ok (.answer (.behind (last.timestamp - now)))

/-- The rule against a reading that may be a panic. -/
def judgeReading (last : Flake) : Reading → Except Fault Verdict
  | .millis now => judge last now
  | .failure => .error (.panic .clock)

/-! ### The five outcomes

The panics of packing are out of reach: a field of the last identifier fits,
and the rule looks before it counts up or takes over a reading. -/

/-- In the millisecond of the last identifier the next number is issued, while
there is one. -/
theorem judge_same {last : Flake} (h : last.sequence < Flake.maxSequence) :
    judge last last.timestamp
      = .ok (.issue (Flake.ofParts last.timestamp last.worker.val (last.sequence + 1))) := by
  simp [judge, Flake.hasRoom, h, Flake.increment_of_room h, Verdict.ofPacked]

/-- When there is none, the millisecond is used up. -/
theorem judge_full {last : Flake} (h : Flake.maxSequence ≤ last.sequence) :
    judge last last.timestamp = .ok (.answer (.pending 1)) := by
  simp [judge, Flake.hasRoom, Nat.not_lt.mpr h]

/-- In a later millisecond the numbers start at zero again. -/
theorem judge_later {last : Flake} {now : Nat} (h : last.timestamp < now)
    (hmax : now ≤ Flake.maxTimestamp) :
    judge last now = .ok (.issue (Flake.ofParts now last.worker.val 0)) := by
  have hne : now ≠ last.timestamp := by omega
  simp [judge, hne, h, Nat.not_lt.mpr hmax, Flake.rollover_of_le hmax, Verdict.ofPacked]

/-- Past the last timestamp there is nothing to issue any more. A reading that
is as late as that is later than any last identifier. -/
theorem judge_beyond {last : Flake} {now : Nat} (h : Flake.maxTimestamp < now) :
    judge last now = .error (.error (.timestampOverflow now)) := by
  have hlast := last.timestamp_le
  have hne : now ≠ last.timestamp := by omega
  have hlt : last.timestamp < now := by omega
  simp [judge, hne, hlt, h]

/-- Before the last identifier the clock is behind, by the difference. -/
theorem judge_earlier {last : Flake} {now : Nat} (h : now < last.timestamp) :
    judge last now = .ok (.answer (.behind (last.timestamp - now))) := by
  have hne : now ≠ last.timestamp := by omega
  have hlt : ¬ last.timestamp < now := by omega
  simp [judge, hne, hlt]

end Snowflake
