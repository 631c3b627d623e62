import Snowflake.Proofs.Contention.Step

/-!
# `Snowflake.Proofs.Sequential`: polls one after another

`Mark.poll` is the algorithm of a poll as the specification writes it down,
with the fields of the last identifier as plain numbers. It looks for overflow
first, then for the direction of the clock. The generators look at the
direction first, and work on the packed word.

`Generator.pollAll_eq` shows that this makes no difference: polled one after
another, with any readings, a generator of either kind gives the results that
the algorithm gives, and keeps its fields packed. `Issues` says what polls
leave behind: each identifier that they issue follows the one before.
-/

set_option autoImplicit false

namespace Snowflake

/-- The fields of the last identifier. -/
structure Mark where
  worker : WorkerId
  /-- In milliseconds. -/
  timestamp : Nat
  sequence : Nat

namespace Mark

/-- The fields in one word. -/
def packed (k : Mark) : Flake := .ofParts k.timestamp k.worker.val k.sequence

/-- The numbers fit into the word. -/
structure Fits (k : Mark) : Prop where
  timestamp_le : k.timestamp ≤ Flake.maxTimestamp
  sequence_le : k.sequence ≤ Flake.maxSequence

/-- The algorithm of one poll, in the order of the specification. -/
def poll (k : Mark) (now : Nat) : PollResult × Mark :=
  if Flake.maxTimestamp < now then (.error (.error (.timestampOverflow now)), k)
  else if now < k.timestamp then (.ok (.behind (k.timestamp - now)), k)
  else if now = k.timestamp then
    if k.sequence < Flake.maxSequence then
      let next := { k with sequence := k.sequence + 1 }
      (.ok (.ready next.packed), next)
    else (.ok (.pending 1), k)
  else
    let next := { k with timestamp := now, sequence := 0 }
    (.ok (.ready next.packed), next)

/-- Polls one after another, a reading each. -/
def pollAll (k : Mark) : List Nat → List PollResult × Mark
  | [] => ([], k)
  | now :: script =>
    let (result, next) := k.poll now
    let (results, last) := next.pollAll script
    (result :: results, last)

/-- A timestamp that fits is packed as it is. -/
theorem timestamp_packed {k : Mark} (h : k.Fits) : k.packed.timestamp = k.timestamp :=
  Flake.timestamp_ofParts_of_le h.timestamp_le _ _

/-- A sequence number that fits is packed as it is. -/
theorem sequence_packed {k : Mark} (h : k.Fits) : k.packed.sequence = k.sequence :=
  Flake.sequence_ofParts_of_le h.sequence_le _ _

/-- A worker number always fits. -/
theorem worker_packed (k : Mark) : k.packed.worker = k.worker :=
  Flake.worker_ofParts_val _ _ _

/-- A poll keeps the worker, and the numbers still fit. -/
theorem poll_fits {k : Mark} (h : k.Fits) (now : Nat) :
    (k.poll now).2.Fits ∧ (k.poll now).2.worker = k.worker := by
  unfold poll
  split
  · exact ⟨h, rfl⟩
  · rename_i hmax
    split
    · exact ⟨h, rfl⟩
    · split
      · split
        · rename_i hroom
          exact ⟨⟨h.timestamp_le, hroom⟩, rfl⟩
        · exact ⟨h, rfl⟩
      · exact ⟨⟨Nat.le_of_not_lt hmax, Nat.zero_le _⟩, rfl⟩

end Mark

namespace Cell

variable {last next : Flake} {r : Reading}

/-! ### One poll, of either kind -/

/-- An identifier that the rule issues becomes the last one. -/
theorem poll_issue (kind : Kind) (h : judgeReading last r = .ok (.issue next)) :
    (ofLast kind last).poll r = (.ok (.ready next), ofLast kind next) := by
  cases kind <;> simp only [ofLast, poll, exchange, critical, h]

/-- Any other answer leaves the last one alone. -/
theorem poll_answer (kind : Kind) {s : Status} (h : judgeReading last r = .ok (.answer s)) :
    (ofLast kind last).poll r = (.ok s, ofLast kind last) := by
  cases kind <;> simp only [ofLast, poll, exchange, critical, h]

/-- An error of the rule leaves the last identifier alone, and does not poison
the lock. -/
theorem poll_error (kind : Kind) {e : Error} (h : judgeReading last r = .error (.error e)) :
    (ofLast kind last).poll r = (.error (.error e), ofLast kind last) := by
  cases kind <;> simp only [ofLast, poll, exchange, critical, h]

/-- On the packed word the rule of a poll does what the algorithm does on the
fields, and the cell stores what is issued. -/
theorem poll_packed (kind : Kind) {k : Mark} (h : k.Fits) (now : Nat) :
    (ofLast kind k.packed).poll (.millis now)
      = ((k.poll now).1, ofLast kind (k.poll now).2.packed) := by
  have htimestamp := Mark.timestamp_packed h
  have hsequence := Mark.sequence_packed h
  have hworker := Mark.worker_packed k
  unfold Mark.poll
  rcases Nat.lt_trichotomy now k.timestamp with hlt | heq | hgt
  · -- An earlier reading cannot be past the last timestamp as well, so it does
    -- not matter which is looked for first.
    have hmax := Nat.not_lt_of_le (Nat.le_trans (Nat.le_of_lt hlt) h.timestamp_le)
    have hbehind := judge_earlier (htimestamp ▸ hlt : now < k.packed.timestamp)
    rw [htimestamp] at hbehind
    rw [if_neg hmax, if_pos hlt]
    exact poll_answer kind hbehind
  · subst heq
    rw [if_neg (Nat.not_lt_of_le h.timestamp_le), if_neg (Nat.lt_irrefl _), if_pos rfl]
    by_cases hroom : k.sequence < Flake.maxSequence
    · have hsame := judge_same (hsequence ▸ hroom : k.packed.sequence < Flake.maxSequence)
      rw [htimestamp, hsequence, hworker] at hsame
      rw [if_pos hroom]
      exact poll_issue kind hsame
    · have hfull := judge_full (hsequence ▸ Nat.le_of_not_lt hroom :
        Flake.maxSequence ≤ k.packed.sequence)
      rw [htimestamp] at hfull
      rw [if_neg hroom]
      exact poll_answer kind hfull
  · by_cases hmax : Flake.maxTimestamp < now
    · have hbeyond : judge k.packed now = .error (.error (.timestampOverflow now)) :=
        judge_beyond hmax
      rw [if_pos hmax]
      exact poll_error kind hbeyond
    · have hlater := judge_later (htimestamp ▸ hgt : k.packed.timestamp < now)
        (Nat.le_of_not_lt hmax)
      rw [hworker] at hlater
      rw [if_neg hmax, if_neg (Nat.lt_asymm hgt), if_neg (Nat.ne_of_gt hgt)]
      exact poll_issue kind hlater

end Cell

namespace Generator

/-- Polls one after another, a reading each. -/
def pollAll (g : Generator) : List Reading → List PollResult × Generator
  | [] => ([], g)
  | r :: script =>
    let (result, next) := g.poll r
    let (results, last) := next.pollAll script
    (result :: results, last)

/-- A generator of either kind follows the algorithm on every script. -/
theorem pollAll_eq (kind : Kind) (script : List Nat) {k : Mark} (h : k.Fits) :
    pollAll ⟨k.worker, .ofLast kind k.packed⟩ (script.map .millis)
      = ((k.pollAll script).1, ⟨k.worker, .ofLast kind (k.pollAll script).2.packed⟩) := by
  induction script generalizing k with
  | nil => rfl
  | cons now script ih =>
      -- The algorithm goes on from numbers that fit, so the hypothesis of the
      -- induction applies to them.
      obtain ⟨hfits, hworker⟩ := Mark.poll_fits h now
      have hfirst : poll ⟨k.worker, .ofLast kind k.packed⟩ (.millis now)
          = ((k.poll now).1, ⟨k.worker, .ofLast kind (k.poll now).2.packed⟩) := by
        simp only [poll, Cell.poll_packed kind h]
      have hrest := ih hfits
      rw [hworker] at hrest
      simp only [List.map_cons, pollAll, Mark.pollAll, hfirst, hrest]

end Generator

/-! ### What they issue -/

/-- After the first identifier the others are issued one after another, and
`last` is the last identifier then. -/
inductive Issues : Flake → List Flake → Flake → Prop
  | none (last : Flake) : Issues last [] last
  | one {first next last : Flake} {now : Nat} {ids : List Flake} (h : first.Follows now next)
      (rest : Issues next ids last) : Issues first (next :: ids) last

namespace Issues

variable {first middle last : Flake} {ids more : List Flake}

/-- What is issued in two stretches is issued in one. -/
theorem append (h : Issues first ids middle) (hmore : Issues middle more last) :
    Issues first (ids ++ more) last := by
  induction h with
  | none _ => exact hmore
  | one hfollows rest ih => exact .one hfollows (ih hmore)

/-- The last identifier is the last one issued, or the first word if none was. -/
theorem last_eq (h : Issues first ids last) : last = ids.getLast?.getD first := by
  induction h with
  | none _ => rfl
  | one hfollows rest ih =>
      rw [List.getLast?_cons, Option.getD_some]
      exact ih

/-- From a word with the reserved bit clear on, they are greater. -/
theorem later (h : Issues first ids last) (hfirst : first.isValid = true) :
    ∀ id ∈ ids, first.Later id := by
  induction h with
  | none _ =>
      intro id hid
      cases hid
  | one hfollows rest ih =>
      intro id hid
      have hnext := hfollows.later hfirst
      rcases List.mem_cons.mp hid with rfl | hrest
      · exact hnext
      · exact hnext.trans (ih hfollows.isValid id hrest)

/-- The reserved bit is clear in all of them, whatever word came before. -/
theorem isValid (h : Issues first ids last) : ∀ id ∈ ids, id.isValid = true := by
  induction h with
  | none _ =>
      intro id hid
      cases hid
  | one hfollows _ ih => exact List.forall_mem_cons.mpr ⟨hfollows.isValid, ih⟩

/-- They ascend from the first one that was issued, whatever word came
before. -/
theorem pairwise (h : Issues first ids last) : ids.Pairwise (· < ·) := by
  induction h with
  | none _ => exact .nil
  | one hfollows rest ih =>
      exact List.pairwise_cons.mpr ⟨fun id hid => (rest.later hfollows.isValid id hid).lt, ih⟩

end Issues

/-- Without overlap a poll issues an identifier that follows the last one, or
issues none and leaves the last one alone. -/
theorem Generator.poll_issues (g : Generator) (r : Reading) :
    Issues g.cell.last (issued? (g.poll r).1).toList (g.poll r).2.cell.last := by
  show Issues g.cell.last (issued? (g.cell.poll r).1).toList (g.cell.poll r).2.last
  rcases g with ⟨worker, last | ⟨last, poisoned⟩⟩
  · simp only [Cell.poll, Cell.exchange]
    cases hjudge : judgeReading last r with
    | error fault => exact .none _
    | ok verdict =>
        cases verdict with
        | issue next =>
            obtain ⟨now, -, hfollows⟩ := judgeReading_issue hjudge
            exact .one hfollows (.none next)
        | answer s =>
            simp only [issued?_answer hjudge]
            exact .none _
  · cases poisoned with
    | true => exact .none _
    | false =>
        simp only [Cell.poll]
        rcases Cell.critical_cases last r with ⟨now, next, -, hfollows, hcritical⟩ |
          ⟨result, poisoned, hcritical, hquiet⟩
        · rw [hcritical]
          exact .one hfollows (.none next)
        · rw [hcritical]
          simp only [hquiet]
          exact .none _

/-- Polls one after another issue identifiers that follow each other, whatever
their readings. -/
theorem Generator.pollAll_issues (g : Generator) (script : List Reading) :
    Issues g.cell.last ((g.pollAll script).1.filterMap issued?) (g.pollAll script).2.cell.last := by
  induction script generalizing g with
  | nil => exact .none _
  | cons r script ih =>
      have hboth := (g.poll_issues r).append (ih (g.poll r).2)
      show Issues g.cell.last
        (((g.poll r).1 :: ((g.poll r).2.pollAll script).1).filterMap issued?) _
      cases hissued : issued? (g.poll r).1 with
      | none =>
          rw [hissued] at hboth
          rw [List.filterMap_cons_none hissued]
          exact hboth
      | some id =>
          rw [hissued] at hboth
          rw [List.filterMap_cons_some hissued]
          exact hboth

end Snowflake
