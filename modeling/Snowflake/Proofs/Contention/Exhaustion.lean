import Snowflake.Proofs.Contention.FrozenClock

/-!
# `Snowflake.Proofs.Contention.Exhaustion`: what a used-up millisecond has issued

A poll answers `pending` when it has seen the largest sequence number of the
millisecond that the clock shows. `pending_after_all_issued` shows that this is no
false alarm, in any run of any callers: when the poll ends, the 4096 identifiers of
the millisecond have been issued, each to a poll that ended before it. So a swap that
fails wastes no number, and a reading that goes back and forth does not either.

There is one exception, and it is the millisecond zero. A new generator starts with
the identifier of timestamp and sequence zero as its last one, though nobody was given
it. A clock that reads zero, as a clock before its epoch does, finds this millisecond
begun. It has 4095 identifiers left, and the identifier that the generator starts with
is never issued at all (`pending_after_all_issued_not_at_zero`).

What carries the proof is a property of every built generator
(`Journal.Exhausting`). The numbers that a poll finds used up are all those after the
first word.
-/

set_option autoImplicit false

namespace Snowflake

/-- The rule answers `pending` only about the largest sequence number, to a reading of
its own millisecond. -/
theorem resultAbout_pending {seen : Flake} {r : Reading} {yieldFor : Nat}
    (h : resultAbout seen r = .ok (.pending yieldFor)) :
    r = .millis seen.timestamp ∧ seen.sequence = Flake.maxSequence ∧ yieldFor = 1 := by
  cases r with
  | failure => cases h
  | millis now =>
      change (judge seen now).map Verdict.status = _ at h
      rcases judge_cases seen now with ⟨_, hjudge, -⟩ | ⟨rfl, hfull, hjudge⟩ | ⟨-, hjudge⟩ |
        ⟨-, hjudge⟩ <;> rw [hjudge] at h <;> cases h
      exact ⟨rfl, hfull, rfl⟩

namespace Journal

/-- The identifiers that were returned before a step, in the order of their polls'
ends. -/
def issuedBefore (j : Journal) (step : Nat) : List Flake :=
  (j.polls.filter fun p => p.ended < step).filterMap fun p => issued? p.result

/-- All that was issued was issued before the next step. -/
theorem issuedBefore_clock {j : Journal} (h : j.Sound) : j.issuedBefore j.clock = j.issued := by
  have hall : (j.polls.filter fun p => p.ended < j.clock) = j.polls := by
    refine List.filter_eq_self.mpr ?_
    intro p hp
    exact decide_eq_true (h.spans p hp).2
  rw [issuedBefore, hall, issued]

/-- Nothing is added later to what was issued before a step. -/
theorem issuedBefore_note {j : Journal} {caller : Nat} {m : Move} {a : Arena}
    {result : Option PollResult} {step : Nat} (h : step ≤ j.clock) :
    (j.note caller m a result).issuedBefore step = j.issuedBefore step := by
  have hnew : ((result.map (j.ending caller m)).toList.filter fun p => p.ended < step) = [] := by
    refine List.filter_eq_nil_iff.mpr ?_
    intro p hp
    obtain ⟨r, -, rfl⟩ := Option.map_eq_some_iff.mp (Option.mem_toList.mp hp)
    -- The poll that the step ends, ends now.
    have hended : (j.ending caller m r).ended = j.clock := rfl
    simp [hended, h]
  show ((j.polls ++ _).filter _).filterMap _ = _
  rw [List.filter_append, hnew, List.append_nil, issuedBefore]

/-- All identifiers of a millisecond were issued before a step, from the next one after
the first word on. -/
structure UsedUp (first : Flake) (j : Journal) (step now : Nat) : Prop where
  /-- The millisecond is no earlier than the first word. -/
  le : first.timestamp ≤ now
  issued : ((j.issuedBefore step).filter fun id => id.timestamp = now)
    = (List.range' (first.nextSequence now) (Flake.maxSequence + 1 - first.nextSequence now)).map
      (Flake.ofParts now first.worker.val)

/-- A poll that was told that a millisecond is used up ended after it was. The
millisecond is the one that the poll read last. -/
def Exhausting (first : Flake) (j : Journal) : Prop :=
  ∀ p ∈ j.polls, ∀ yieldFor, p.result = .ok (.pending yieldFor) →
    yieldFor = 1 ∧ ∃ now, p.readings.getLast? = some (.millis now) ∧ j.UsedUp first p.ended now

/-- The largest sequence number of a millisecond has been issued, so the others have
been issued too. -/
theorem Ascending.usedUp {first seen : Flake} {j : Journal} (h : j.Ascending first)
    (hj : j.Sound) (hseen : seen ∈ first :: j.issued) (hfull : seen.sequence = Flake.maxSequence) :
    j.UsedUp first j.clock seen.timestamp where
  le := by
    rcases List.mem_cons.mp hseen with rfl | hissued
    · exact Nat.le_refl _
    · exact Flake.timestamp_le_of_chain h.succeeds seen hissued
  issued := by
    rw [issuedBefore_clock hj, h.filter_timestamp, Flake.sequencesAt_of_full h.succeeds hseen hfull]

/-- What was used up before a step stays so. -/
theorem UsedUp.note {first : Flake} {j : Journal} {step now : Nat} (h : j.UsedUp first step now)
    (hle : step ≤ j.clock) (caller : Nat) (m : Move) (a : Arena) (result : Option PollResult) :
    (j.note caller m a result).UsedUp first step now where
  le := h.le
  issued := by
    rw [issuedBefore_note hle]
    exact h.issued

/-- A poll that is told to wait ends after all numbers that it could have got. -/
theorem Exhausting.note {first : Flake} {j : Journal} (h : j.Exhausting first) (hj : j.Sound)
    (hascending : j.Ascending first) (hanswered : j.Answered first) {caller : Nat} {m : Move}
    {a : Arena} {result : Option PollResult} (htakes : j.arena.Takes caller m a result) :
    (j.note caller m a result).Exhausting first := by
  intro p hp yieldFor hpending
  rcases List.mem_append.mp hp with hold | hnew
  · obtain ⟨hone, now, hreading, hused⟩ := h p hold yieldFor hpending
    have hended := Nat.le_of_lt (hj.spans p hold).2
    exact ⟨hone, now, hreading, hused.note hended caller m a result⟩
  · -- The step ends the poll with the answer about a word that was seen, or is in the cell.
    obtain ⟨r, rfl, rfl⟩ := Option.map_eq_some_iff.mp (Option.mem_toList.mp hnew)
    rcases ending_about hj htakes with ⟨-, hrefused⟩ | ⟨seen, reading, hseen, hreading, habout⟩
    · rw [show (j.ending caller m r).result = r from rfl, hrefused] at hpending
      cases hpending
    · have hmem : seen ∈ first :: j.issued := by
        rcases hseen with hstage | rfl
        · exact hanswered.seen caller seen hstage
        · exact hanswered.last
      obtain ⟨rfl, hfull, hone⟩ := resultAbout_pending (habout.symm.trans hpending)
      have hused := hascending.usedUp hj hmem hfull
      exact ⟨hone, seen.timestamp, hreading, hused.note (Nat.le_refl _) caller m a _⟩

/-- Every run of a built generator is exhausting. -/
theorem exhausting_run {g : Generator} (hg : g.Built) {moves : List (Nat × Move)} {j : Journal}
    (h : (start g.cell).run moves = some j) : j.Exhausting g.cell.last := by
  have hboth : ∀ (k : Journal) caller m a result, k.Sound →
      k.Ascending g.cell.last ∧ k.Answered g.cell.last ∧ k.Exhausting g.cell.last →
      k.arena.Takes caller m a result →
      (k.note caller m a result).Ascending g.cell.last ∧
        (k.note caller m a result).Answered g.cell.last ∧
        (k.note caller m a result).Exhausting g.cell.last := by
    intro k caller m a result hsound ⟨hascending, hanswered, hexhausting⟩ htakes
    exact ⟨hascending.note hsound htakes, hanswered.note hsound htakes,
      hexhausting.note hsound hascending hanswered htakes⟩
  have hstart : (start g.cell).Exhausting g.cell.last := by
    intro p hp
    cases hp
  exact (sound_invariant hboth
    ⟨ascending_start hg.isValid, answered_start hg.isPoisoned, hstart⟩ h).2.2

/-- The first word is never issued. -/
theorem Ascending.first_notMem {first : Flake} {j : Journal} (h : j.Ascending first) :
    first ∉ j.issued := by
  intro hmem
  obtain ⟨hlater, -⟩ := List.pairwise_cons.mp h.pairwise
  exact Flake.ne_of_lt (hlater first hmem).lt rfl

end Journal

/-- Take a new generator of either kind and any run of any number of callers over it,
with any readings, and a poll that was told that the millisecond is used up. The poll
is told to come back after one millisecond, and the millisecond is the one that the
poll read last.

If it is not the millisecond zero, all 4096 identifiers of it were issued before the
poll ended, in the order of their numbers, each once. If it is the millisecond zero,
the 4095 identifiers with the numbers from one on were, and the identifier with the
number zero is not issued in the whole run. So all identifiers of a millisecond are
used up exactly if it is later than zero. -/
theorem pending_after_all_issued {kind : Kind} {worker : WorkerId} {moves : List (Nat × Move)}
    {j : Journal} (hrun : (Journal.start (Generator.new kind worker).cell).run moves = some j)
    {p : Span} (hp : p ∈ j.polls) {yieldFor : Nat}
    (hpending : p.result = .ok (.pending yieldFor)) :
    yieldFor = 1 ∧ ∃ now, p.readings.getLast? = some (.millis now) ∧
      (0 < now → ((j.issuedBefore p.ended).filter fun id => id.timestamp = now)
        = (List.range 4096).map (Flake.ofParts now worker.val)) ∧
      (now = 0 → ((j.issuedBefore p.ended).filter fun id => id.timestamp = now)
          = (List.range' 1 4095).map (Flake.ofParts now worker.val) ∧
        Flake.ofParts 0 worker.val 0 ∉ j.issued) ∧
      ((∀ number ≤ 4095, Flake.ofParts now worker.val number ∈ j.issuedBefore p.ended) ↔
        0 < now) := by
  have hbuilt := Generator.Built.new kind worker
  have hfirst : (Generator.new kind worker).cell.last = Flake.ofParts 0 worker.val 0 :=
    Cell.last_ofLast kind _
  have hexhausting := Journal.exhausting_run hbuilt hrun
  have hnever := (Journal.ascending_run hbuilt.isValid hrun).first_notMem
  rw [hfirst] at hexhausting hnever
  obtain ⟨hone, now, hreading, hused⟩ := hexhausting p hp yieldFor hpending
  have hissued := hused.issued
  rw [Flake.worker_ofParts_val] at hissued
  have hzero : (Flake.ofParts 0 worker.val 0).timestamp = 0 :=
    Flake.timestamp_ofParts_of_le (Nat.zero_le _) _ _
  have hnumber : (Flake.ofParts 0 worker.val 0).sequence = 0 :=
    Flake.sequence_ofParts_of_le (Nat.zero_le _) _ _
  have hlater : 0 < now → ((j.issuedBefore p.ended).filter fun id => id.timestamp = now)
      = (List.range 4096).map (Flake.ofParts now worker.val) := by
    intro hpos
    rw [hissued, Flake.nextSequence_of_ne (by omega), List.range_eq_range']
    rfl
  have hbegun : now = 0 → ((j.issuedBefore p.ended).filter fun id => id.timestamp = now)
      = (List.range' 1 4095).map (Flake.ofParts now worker.val) := by
    rintro rfl
    rw [hissued, Flake.nextSequence, if_pos hzero.symm, hnumber]
    rfl
  -- What is left is that zero is the only exception.
  refine ⟨hone, now, hreading, hlater, fun hnow => ⟨hbegun hnow, hnever⟩, ?_⟩
  constructor
  · intro hall
    -- The identifier with the number zero would be issued.
    refine Nat.pos_of_ne_zero ?_
    rintro rfl
    have hmem := hall 0 (Nat.zero_le _)
    exact hnever ((List.filter_sublist.filterMap _).subset hmem)
  · intro hpos number hle
    have hmem : Flake.ofParts now worker.val number ∈
        (List.range 4096).map (Flake.ofParts now worker.val) :=
      List.mem_map_of_mem (List.mem_range.mpr (by omega))
    rw [← hlater hpos] at hmem
    exact (List.mem_filter.mp hmem).1

/-- So many polls of a locked generator by one caller, while the clock stands still. -/
def pollsAt (now n : Nat) : List (Nat × Move) := List.replicate n (0, .critical (.millis now))

namespace Journal

/-- One poll of a locked generator. The lock is given back sound, since the
reading is no panic. -/
theorem exists_step_critical {j : Journal} {last : Flake} (now : Nat)
    (hcell : j.arena.cell = .locked last false) (hidle : j.arena.stage 0 = .idle) :
    ∃ k next, j.step 0 (.critical (.millis now)) = some k ∧
      k.arena.cell = .locked next false ∧ k.arena.stage 0 = .idle ∧
      k.polls.length = j.polls.length + 1 ∧ k.readings = j.readings ++ [.millis now] := by
  -- A section that poisoned its lock would have had a panic to read.
  have hfree : ∃ next, (Cell.critical last (.millis now)).2 = .locked next false := by
    cases hpoisoned : (Cell.critical last (.millis now)).2.isPoisoned with
    | true => cases Cell.critical_poisoned hpoisoned
    | false =>
        rcases Cell.critical_cases last (.millis now) with ⟨_, next, -, -, hcritical⟩ |
          ⟨_, poisoned, hcritical, -⟩
        · exact ⟨next, congrArg Prod.snd hcritical⟩
        · rw [hcritical] at hpoisoned
          obtain rfl : poisoned = false := hpoisoned
          exact ⟨last, congrArg Prod.snd hcritical⟩
  obtain ⟨next, hnext⟩ := hfree
  refine ⟨j.note 0 (.critical (.millis now)) { j.arena with cell := _ }
    (some (Cell.critical last (.millis now)).1), next, ?_, hnext, hidle, ?_, ?_⟩
  · rw [step, Arena.step_of_takes (.pass hcell hidle)]
    rfl
  · simp [note]
  · rw [readings_note, Arena.reading?_critical hcell]
    rfl

/-- Any number of such polls are a run, and each ends. -/
theorem exists_run_pollsAt (now n : Nat) {j : Journal} {last : Flake}
    (hcell : j.arena.cell = .locked last false) (hidle : j.arena.stage 0 = .idle) :
    ∃ k, j.run (pollsAt now n) = some k ∧ k.polls.length = j.polls.length + n ∧
      k.readings = j.readings ++ List.replicate n (.millis now) := by
  induction n generalizing j last with
  | zero => exact ⟨j, rfl, rfl, (List.append_nil _).symm⟩
  | succ n ih =>
      obtain ⟨k, next, hstep, hcell, hidle, hpolls, hreadings⟩ :=
        exists_step_critical now hcell hidle
      obtain ⟨l, hrest, hall, htaken⟩ := ih hcell hidle
      refine ⟨l, ?_, ?_, ?_⟩
      · show (j.step 0 (.critical (.millis now))).bind _ = some l
        rw [hstep]
        exact hrest
      · omega
      · rw [htaken, hreadings, List.replicate_succ, List.append_assoc]
        rfl

/-- The one reading is also the last one of each poll. -/
theorem Frozen.millis_of_getLast? {first : Flake} {now last : Nat} {j : Journal}
    (hfrozen : j.Frozen now) (h : j.Answered first) {p : Span} (hp : p ∈ j.polls)
    (hreading : p.readings.getLast? = some (.millis last)) : last = now := by
  have hread := h.readings p hp _ (List.mem_of_getLast? hreading)
  exact Reading.millis.inj (hfrozen _ hread)

/-- With one poll more than a millisecond has numbers, one is told that it is used up. -/
theorem exists_pending (worker : WorkerId) {now : Nat} (hmax : now ≤ Flake.maxTimestamp) :
    ∃ j, (start (Generator.new .locked worker).cell).run (pollsAt now 4097) = some j ∧
      j.Frozen now ∧ ∃ p ∈ j.polls, p.result = .ok (.pending 1) := by
  have hbuilt := Generator.Built.new .locked worker
  obtain ⟨j, hj, hpolls, hreadings⟩ := exists_run_pollsAt now 4097
    (j := start (Generator.new .locked worker).cell) rfl rfl
  have hascending := ascending_run hbuilt.isValid hj
  have hanswered := answered_run hbuilt.isPoisoned hj
  have hfrozen : j.Frozen now := by
    intro r hr
    rw [hreadings] at hr
    exact List.eq_of_mem_replicate hr
  have hle : (Generator.new .locked worker).cell.last.timestamp ≤ now := by
    show (Flake.ofParts 0 worker.val 0).timestamp ≤ now
    rw [Flake.timestamp_ofParts_of_le (Nat.zero_le _)]
    exact Nat.zero_le _
  -- There are fewer identifiers than polls.
  have hcount := hanswered.length_of_frozen hascending hfrozen hle hmax
  have hfewer : j.issued.length ≠ j.polls.length := by
    have hnumbers : Flake.maxSequence = 4095 := rfl
    have hnone : (start (Generator.new .locked worker).cell).polls.length = 0 := rfl
    omega
  obtain ⟨p, hp, hnone⟩ : ∃ p ∈ j.polls, issued? p.result = none := by
    by_contra hall
    refine hfewer (List.filterMap_length_eq_length.mpr ?_)
    simpa [Option.isSome_iff_ne_none] using hall
  exact ⟨j, hj, hfrozen, p, hp, (hanswered.pending_of_frozen hfrozen hle hmax hp hnone).1⟩

end Journal

/-- The clock stands still in millisecond five. The poll that is told to wait has 4096
identifiers before it. -/
theorem pending_after_all_issued_standingClock :
    ∃ j, (Journal.start (Generator.new .locked ⟨7, by decide⟩).cell).run (pollsAt 5 4097) = some j ∧
      ∃ p ∈ j.polls, p.result = .ok (.pending 1) ∧
        ((j.issuedBefore p.ended).filter fun id => id.timestamp = 5)
          = (List.range 4096).map (Flake.ofParts 5 7) := by
  have hbuilt := Generator.Built.new .locked ⟨7, by decide⟩
  obtain ⟨j, hj, hfrozen, p, hp, hpending⟩ := @Journal.exists_pending ⟨7, by decide⟩ 5 (by decide)
  obtain ⟨-, now, hreading, hlater, -⟩ := pending_after_all_issued hj hp hpending
  obtain rfl : now = 5 := hfrozen.millis_of_getLast?
    (Journal.answered_run hbuilt.isPoisoned hj) hp hreading
  exact ⟨j, hj, p, hp, hpending, hlater (by decide)⟩

/-- The clock stands still in millisecond zero. A poll is told to wait, and the
identifier with the number zero is not among those issued. -/
theorem pending_after_all_issued_not_at_zero :
    ∃ j, (Journal.start (Generator.new .locked ⟨7, by decide⟩).cell).run (pollsAt 0 4097) = some j ∧
      ∃ p ∈ j.polls, p.result = .ok (.pending 1) ∧ p.readings.getLast? = some (.millis 0) ∧
        Flake.ofParts 0 7 0 ∉ j.issued := by
  have hbuilt := Generator.Built.new .locked ⟨7, by decide⟩
  obtain ⟨j, hj, hfrozen, p, hp, hpending⟩ := @Journal.exists_pending ⟨7, by decide⟩ 0 (by decide)
  obtain ⟨-, now, hreading, -⟩ := Journal.exhausting_run hbuilt hj p hp 1 hpending
  obtain rfl : now = 0 := hfrozen.millis_of_getLast?
    (Journal.answered_run hbuilt.isPoisoned hj) hp hreading
  exact ⟨j, hj, p, hp, hpending, hreading, (Journal.ascending_run hbuilt.isValid hj).first_notMem⟩

end Snowflake
