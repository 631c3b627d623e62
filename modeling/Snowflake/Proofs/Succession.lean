import Snowflake.Generator

/-!
# `Snowflake.Proofs.Succession`: which identifier comes after which

`Flake.Follows last now next` says what the rule of a poll may put in the place
of `last` at the reading `now`: the next sequence number of the same
millisecond, or the first identifier of a later one, with the worker copied.
`judge_issue_iff` shows that `judge` issues exactly these, and `judge_cases`
lists its other three answers.

`Flake.Follows.lt` is the reason why identifiers ascend. The fields of a word
with the reserved bit clear are its digits to a mixed base, so a greater
timestamp, or the same one with a greater sequence number, is a greater word.
The reserved bit has to be clear in `last`: it is clear in `next`, and a word
that has it set is above every issued one.

`Generator.Built` holds of the generators that construction gives. They start
with the reserved bit clear and their own worker number in the word.
-/

set_option autoImplicit false

namespace Snowflake

/-- A worker is its number. -/
theorem WorkerId.ext_val {v w : WorkerId} (h : v.val = w.val) : v = w := by
  cases v
  cases w
  cases h
  rfl

namespace Flake

/-- Identifiers are compared by their words. -/
theorem lt_iff_toNat_lt {a b : Flake} : a < b ↔ a.raw.toNat < b.raw.toNat :=
  UInt64.lt_iff_toNat_lt

/-- A smaller identifier is another one. -/
theorem ne_of_lt {a b : Flake} (h : a < b) : a ≠ b := by
  intro heq
  subst heq
  exact UInt64.lt_irrefl _ h

/-- A word with the reserved bit clear is the sum of its fields, each with the
weight of its place. -/
theorem toNat_raw {f : Flake} (h : f.isValid = true) :
    f.raw.toNat = f.timestamp * timestampUnit + f.worker.val * workerUnit + f.sequence := by
  have hparts := toNat_ofParts f.timestamp f.worker.val f.sequence
  have hworker : f.worker.val ≤ maxWorker := f.worker.val_le
  rw [ofParts_fields h, Nat.mod_eq_of_lt (Nat.lt_succ_of_le f.timestamp_le),
    Nat.mod_eq_of_lt (Nat.lt_succ_of_le hworker),
    Nat.mod_eq_of_lt (Nat.lt_succ_of_le f.sequence_le)] at hparts
  exact hparts

/-! A field that fits is packed as it is. -/

/-- A timestamp of 41 bits is read back. -/
theorem timestamp_ofParts_of_le {timestamp : Nat} (h : timestamp ≤ maxTimestamp)
    (worker sequence : Nat) : (ofParts timestamp worker sequence).timestamp = timestamp := by
  rw [timestamp_ofParts, Nat.mod_eq_of_lt (Nat.lt_succ_of_le h)]

/-- A sequence number of twelve bits is read back. -/
theorem sequence_ofParts_of_le {sequence : Nat} (h : sequence ≤ maxSequence)
    (timestamp worker : Nat) : (ofParts timestamp worker sequence).sequence = sequence := by
  rw [sequence_ofParts, Nat.mod_eq_of_lt (Nat.lt_succ_of_le h)]

/-- Any worker is read back. -/
theorem worker_ofParts_val (timestamp : Nat) (worker : WorkerId) (sequence : Nat) :
    (ofParts timestamp worker.val sequence).worker = worker := by
  have hworker : worker.val ≤ maxWorker := worker.val_le
  refine WorkerId.ext_val ?_
  rw [worker_ofParts, Nat.mod_eq_of_lt (Nat.lt_succ_of_le hworker)]

/-- Two words with the reserved bit clear are equal when their fields are. -/
theorem ext_fields {a b : Flake} (ha : a.isValid = true) (hb : b.isValid = true)
    (htimestamp : a.timestamp = b.timestamp) (hworker : a.worker = b.worker)
    (hsequence : a.sequence = b.sequence) : a = b := by
  refine ext_toNat ?_
  rw [toNat_raw ha, toNat_raw hb, htimestamp, hworker, hsequence]

/-- With the reserved bit clear, the word read as a signed integer is the word
itself. -/
theorem toInt_toInt64 {f : Flake} (h : f.isValid = true) :
    f.toInt64.toInt = f.raw.toNat := by
  simp only [isValid, decide_eq_true_eq] at h
  have hsmall : 2 * f.raw.toBitVec.toNat < 2 ^ 64 := by
    rw [UInt64.toNat_toBitVec]
    simp only [reservedUnit] at h
    omega
  show f.raw.toBitVec.toInt = f.raw.toNat
  rw [BitVec.toInt_eq_toNat_cond, if_pos hsmall, UInt64.toNat_toBitVec]

/-- A greater identifier of the same worker, with the reserved bit clear. -/
structure Later (a b : Flake) : Prop where
  lt : a < b
  isValid : b.isValid = true
  worker : b.worker = a.worker

/-- A later one than a later one is later. -/
theorem Later.trans {a b c : Flake} (hab : a.Later b) (hbc : b.Later c) : a.Later c where
  lt := UInt64.lt_trans hab.lt hbc.lt
  isValid := hbc.isValid
  worker := hbc.worker.trans hab.worker

instance : Trans Later Later Later := ⟨Later.trans⟩

/-- `next` is what the rule issues after `last` at the reading `now`. -/
structure Follows (last : Flake) (now : Nat) (next : Flake) : Prop where
  /-- The reserved bit is clear. -/
  isValid : next.isValid = true
  /-- The timestamp is the reading. -/
  timestamp : next.timestamp = now
  /-- The worker is copied. -/
  worker : next.worker = last.worker
  /-- The sequence counts up in a millisecond and starts again at zero in a
  later one. -/
  sequence : (now = last.timestamp ∧ next.sequence = last.sequence + 1) ∨
    (last.timestamp < now ∧ next.sequence = 0)

/-- The fields that `Follows` asks for, packed. -/
theorem follows_ofParts {last : Flake} {now sequence : Nat} (hnow : now ≤ maxTimestamp)
    (hseq : sequence ≤ maxSequence)
    (h : (now = last.timestamp ∧ sequence = last.sequence + 1) ∨
      (last.timestamp < now ∧ sequence = 0)) :
    last.Follows now (ofParts now last.worker.val sequence) where
  isValid := isValid_ofParts _ _ _
  timestamp := timestamp_ofParts_of_le hnow _ _
  worker := worker_ofParts_val _ _ _
  sequence := by
    rw [sequence_ofParts_of_le hseq]
    exact h

/-- Whatever follows an identifier is greater. -/
theorem Follows.lt {last next : Flake} {now : Nat} (h : last.Follows now next)
    (hlast : last.isValid = true) : last < next := by
  -- A millisecond weighs more than all workers and sequence numbers together,
  -- so the sums compare as the timestamps do.
  rw [lt_iff_toNat_lt, toNat_raw hlast, toNat_raw h.isValid, h.timestamp, h.worker]
  have hworker := last.worker.val_le
  have hsequence := last.sequence_le
  simp only [timestampUnit, workerUnit, maxSequence] at *
  rcases h.sequence with ⟨hnow, hnext⟩ | ⟨hnow, hnext⟩
  · omega
  · omega

/-- What follows is a later one. -/
theorem Follows.later {last next : Flake} {now : Nat} (h : last.Follows now next)
    (hlast : last.isValid = true) : last.Later next :=
  ⟨h.lt hlast, h.isValid, h.worker⟩

end Flake

/-! ### The answers of the rule -/

/-- The four answers of the rule: an identifier that follows, `pending` at the
end of a millisecond, `behind` for an earlier reading, and the error past the
last timestamp. -/
theorem judge_cases (last : Flake) (now : Nat) :
    (∃ next, judge last now = .ok (.issue next) ∧ last.Follows now next) ∨
    (now = last.timestamp ∧ last.sequence = Flake.maxSequence ∧
      judge last now = .ok (.answer (.pending 1))) ∨
    (now < last.timestamp ∧ judge last now = .ok (.answer (.behind (last.timestamp - now)))) ∨
    (Flake.maxTimestamp < now ∧ judge last now = .error (.error (.timestampOverflow now))) := by
  rcases Nat.lt_trichotomy now last.timestamp with hlt | heq | hgt
  · exact .inr (.inr (.inl ⟨hlt, judge_earlier hlt⟩))
  · subst heq
    rcases Nat.lt_or_ge last.sequence Flake.maxSequence with hroom | hfull
    · have hfollows := Flake.follows_ofParts last.timestamp_le hroom (.inl ⟨rfl, rfl⟩)
      exact .inl ⟨_, judge_same hroom, hfollows⟩
    · exact .inr (.inl ⟨rfl, Nat.le_antisymm last.sequence_le hfull, judge_full hfull⟩)
  · rcases Nat.lt_or_ge Flake.maxTimestamp now with hmax | hmax
    · exact .inr (.inr (.inr ⟨hmax, judge_beyond hmax⟩))
    · -- A later millisecond starts at its first place.
      have hfollows := Flake.follows_ofParts hmax (Nat.zero_le _) (.inr ⟨hgt, rfl⟩)
      exact .inl ⟨_, judge_later hgt hmax, hfollows⟩

/-- The rule issues exactly what follows. -/
theorem judge_issue_iff {last next : Flake} {now : Nat} :
    judge last now = .ok (.issue next) ↔ last.Follows now next := by
  constructor
  · intro h
    rcases judge_cases last now with ⟨found, hfound, hfollows⟩ | ⟨-, -, hother⟩ | ⟨-, hother⟩ |
      ⟨-, hother⟩
    · rw [hfound] at h
      cases h
      exact hfollows
    all_goals
      rw [hother] at h
      cases h
  · intro h
    have htimestamp := next.timestamp_le
    have hsequence := next.sequence_le
    rw [h.timestamp] at htimestamp
    rcases judge_cases last now with ⟨found, hfound, hfollows⟩ | ⟨hnow, hfull, -⟩ | ⟨hnow, -⟩ |
      ⟨hnow, -⟩
    · -- Both follow, and the fields say all there is to say.
      have hsame : found = next := by
        refine Flake.ext_fields hfollows.isValid h.isValid ?_ ?_ ?_
        · rw [hfollows.timestamp, h.timestamp]
        · rw [hfollows.worker, h.worker]
        · rcases hfollows.sequence with ⟨_, _⟩ | ⟨_, _⟩ <;>
            rcases h.sequence with ⟨_, _⟩ | ⟨_, _⟩ <;> omega
      rw [hfound, hsame]
    · rcases h.sequence with ⟨_, _⟩ | ⟨_, _⟩ <;> omega
    · rcases h.sequence with ⟨_, _⟩ | ⟨_, _⟩ <;> omega
    · omega

/-- The rule answers `behind` only to a reading that is earlier than the last
timestamp. -/
theorem judge_behind {last : Flake} {now drift : Nat}
    (h : judge last now = .ok (.answer (.behind drift))) : now < last.timestamp := by
  rcases judge_cases last now with ⟨_, hother, -⟩ | ⟨-, -, hother⟩ | ⟨hnow, -⟩ | ⟨-, hother⟩
  · rw [hother] at h
    cases h
  · rw [hother] at h
    cases h
  · exact hnow
  · rw [hother] at h
    cases h

/-- An answer that leaves the last identifier alone names no new one. -/
theorem judge_answer_ne_ready {last id : Flake} {now : Nat} :
    judge last now ≠ .ok (.answer (.ready id)) := by
  intro h
  rcases judge_cases last now with ⟨_, hother, -⟩ | ⟨-, -, hother⟩ | ⟨-, hother⟩ | ⟨-, hother⟩ <;>
    rw [hother] at h <;> cases h

/-- An issued identifier comes from a reading, never from a panic. -/
theorem judgeReading_issue {last next : Flake} {r : Reading}
    (h : judgeReading last r = .ok (.issue next)) :
    ∃ now, r = .millis now ∧ last.Follows now next := by
  cases r with
  | millis now => exact ⟨now, rfl, judge_issue_iff.mp h⟩
  | failure => cases h

/-- A clock that panics is not behind. -/
theorem judgeReading_behind {last : Flake} {r : Reading} {drift : Nat}
    (h : judgeReading last r = .ok (.answer (.behind drift))) :
    ∃ now, r = .millis now ∧ now < last.timestamp := by
  cases r with
  | millis now => exact ⟨now, rfl, judge_behind h⟩
  | failure => cases h

/-! ### Construction -/

namespace Generator

/-- Preloading succeeds exactly when both fields fit, and puts them into the
first word as they are. -/
theorem preloaded_eq_ok_iff {kind : Kind} {worker : WorkerId} {timestamp sequence : Nat}
    {g : Generator} :
    preloaded kind worker timestamp sequence = .ok g ↔
      timestamp ≤ Flake.maxTimestamp ∧ sequence ≤ Flake.maxSequence ∧
        g = ⟨worker, .ofLast kind (Flake.ofParts timestamp worker.val sequence)⟩ := by
  have hworker : worker.val ≤ Flake.maxWorker := worker.val_le
  unfold preloaded
  cases hpack : Flake.pack timestamp worker.val sequence with
  | ok last =>
      obtain ⟨ht, -, hs, rfl⟩ := Flake.pack_eq_ok_iff.mp hpack
      simp only [Except.ok.injEq]
      exact ⟨fun h => ⟨ht, hs, h.symm⟩, fun h => h.2.2.symm⟩
  | error field =>
      simp only [reduceCtorEq, false_iff]
      rintro ⟨ht, hs, -⟩
      rw [Flake.pack_eq_ok_iff.mpr ⟨ht, hworker, hs, rfl⟩] at hpack
      cases hpack

/-- So preloading panics exactly over a field that is too wide. The worker
number always fits. -/
theorem preloaded_panics_iff {kind : Kind} {worker : WorkerId} {timestamp sequence : Nat} :
    (∃ p, preloaded kind worker timestamp sequence = .error p) ↔
      Flake.maxTimestamp < timestamp ∨ Flake.maxSequence < sequence := by
  by_cases hfits : timestamp ≤ Flake.maxTimestamp ∧ sequence ≤ Flake.maxSequence
  · have hok : preloaded kind worker timestamp sequence = .ok _ :=
      preloaded_eq_ok_iff.mpr ⟨hfits.1, hfits.2, rfl⟩
    rw [hok]
    refine iff_of_false ?_ (by omega)
    rintro ⟨p, hp⟩
    cases hp
  · refine iff_of_true ?_ (by omega)
    cases hpreloaded : preloaded kind worker timestamp sequence with
    | error p => exact ⟨p, rfl⟩
    | ok g =>
        obtain ⟨ht, hs, -⟩ := preloaded_eq_ok_iff.mp hpreloaded
        exact absurd ⟨ht, hs⟩ hfits

/-- A generator as construction gives it. -/
inductive Built : Generator → Prop
  /-- It starts at timestamp and sequence zero. -/
  | new (kind : Kind) (worker : WorkerId) : Built (.new kind worker)
  /-- It is preloaded with fields that fit. -/
  | preloaded {kind : Kind} {worker : WorkerId} {timestamp sequence : Nat} {g : Generator}
      (h : Generator.preloaded kind worker timestamp sequence = .ok g) : Built g

/-- A built generator is preloaded with some fields, zeros if need be. -/
theorem Built.exists_preloaded {g : Generator} (h : g.Built) :
    ∃ kind worker timestamp sequence,
      Generator.preloaded kind worker timestamp sequence = .ok g := by
  cases h with
  | new kind worker => exact ⟨kind, worker, 0, 0, preloaded_zero kind worker⟩
  | preloaded h => exact ⟨_, _, _, _, h⟩

/-- The first word of a built generator has the reserved bit clear. -/
theorem Built.isValid {g : Generator} (h : g.Built) : g.cell.last.isValid = true := by
  obtain ⟨kind, worker, timestamp, sequence, hg⟩ := h.exists_preloaded
  obtain ⟨-, -, rfl⟩ := preloaded_eq_ok_iff.mp hg
  rw [Cell.last_ofLast]
  exact Flake.isValid_ofParts _ _ _

/-- The lock of a built generator is not poisoned. -/
theorem Built.isPoisoned {g : Generator} (h : g.Built) : g.cell.isPoisoned = false := by
  obtain ⟨kind, worker, timestamp, sequence, hg⟩ := h.exists_preloaded
  obtain ⟨-, -, rfl⟩ := preloaded_eq_ok_iff.mp hg
  exact Cell.isPoisoned_ofLast _ _

/-- The first word of a built generator holds the generator's worker. -/
theorem Built.worker_last {g : Generator} (h : g.Built) : g.cell.last.worker = g.worker := by
  obtain ⟨kind, worker, timestamp, sequence, hg⟩ := h.exists_preloaded
  obtain ⟨-, -, rfl⟩ := preloaded_eq_ok_iff.mp hg
  rw [Cell.last_ofLast, Flake.worker_ofParts_val]

end Generator

end Snowflake
