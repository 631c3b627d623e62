import Snowflake.Proofs.Contention.Milliseconds

/-!
# `Snowflake.Proofs.Contention.FrozenClock`: every number is used, none twice

The clock always reads the same. Then the polls of all callers share the
sequence numbers of one millisecond, and `issued_of_frozen_clock` counts them.
As many polls get an identifier as there are polls, or numbers left, whichever
is less. The numbers are used in order, and every other poll is told that the
millisecond is used up.

Two facts carry the count, and both are read off the results of the polls
(`Journal.Answered`). All identifiers have the one timestamp, so their sequence
numbers are consecutive, as many as there are identifiers. And a poll that gets
none has seen the last number of the millisecond in a word that was issued, or
preloaded (`Journal.full_of_pending`). So it is told so only after all numbers
were used: a lost swap costs none.
-/

set_option autoImplicit false

namespace Snowflake

namespace Journal

/-- Every reading that has been taken is the same. -/
def Frozen (now : Nat) (j : Journal) : Prop :=
  ∀ r ∈ j.readings, r = .millis now

variable {first : Flake} {now : Nat} {j : Journal}

/-- Each poll answers about a word that was the last identifier once, to the
one reading. -/
theorem Answered.about_of_frozen (h : j.Answered first) (hfrozen : j.Frozen now) {p : Span}
    (hp : p ∈ j.polls) :
    ∃ seen ∈ first :: j.issued, p.result = resultAbout seen (.millis now) := by
  rcases h.polls p hp with ⟨hfailure, -⟩ | ⟨seen, hseen, r, hr, habout⟩
  · cases hfrozen .failure hfailure
  · have hreading := hfrozen r (h.readings p hp r (List.mem_of_getLast? hr))
    rw [hreading] at habout
    exact ⟨seen, hseen, habout⟩

/-- Every identifier has the one reading for its timestamp. -/
theorem Answered.timestamp_of_frozen (h : j.Answered first) (hfrozen : j.Frozen now) :
    ∀ id ∈ j.issued, id.timestamp = now := by
  intro id hid
  obtain ⟨p, hp, hissued⟩ := List.mem_filterMap.mp hid
  obtain ⟨seen, -, habout⟩ := h.about_of_frozen hfrozen hp
  rw [issued?_eq_some_iff.mp hissued] at habout
  have hreading := (resultAbout_ready habout.symm).1
  cases hreading
  rfl

/-- All identifiers are those of the millisecond. -/
theorem Answered.filter_of_frozen (h : j.Answered first) (hfrozen : j.Frozen now) :
    (j.issued.filter fun id => id.timestamp = now) = j.issued := by
  refine List.filter_eq_self.mpr ?_
  intro id hid
  exact decide_eq_true (h.timestamp_of_frozen hfrozen id hid)

/-- Their numbers in the millisecond are all their numbers. -/
theorem Answered.sequencesAt_of_frozen (h : j.Answered first) (hfrozen : j.Frozen now) :
    Flake.sequencesAt now j.issued = j.issued.map Flake.sequence := by
  rw [Flake.sequencesAt, h.filter_of_frozen hfrozen]

/-- The sequence numbers issued under a frozen clock are consecutive. -/
theorem Answered.sequences_of_frozen (h : j.Answered first) (hascending : j.Ascending first)
    (hfrozen : j.Frozen now) (hle : first.timestamp ≤ now) :
    first.nextSequence now + j.issued.length ≤ Flake.maxSequence + 1 ∧
      j.issued.map Flake.sequence = List.range' (first.nextSequence now) j.issued.length := by
  have hall := h.sequencesAt_of_frozen hfrozen
  obtain ⟨k, hk, hnumbers⟩ := Flake.sequencesAt_eq_range' hascending.succeeds hle
  -- All identifiers are of the millisecond, so there are as many as numbers.
  have hlength : j.issued.length = k := by
    have hcount := congrArg List.length hnumbers
    rwa [hall, List.length_map, List.length_range'] at hcount
  rw [hlength, ← hall]
  exact ⟨hk, hnumbers⟩

/-- The identifiers are put together from the millisecond, the worker and the
sequence numbers. -/
theorem Answered.issued_of_frozen (h : j.Answered first) (hascending : j.Ascending first)
    (hfrozen : j.Frozen now) (hle : first.timestamp ≤ now) :
    j.issued = (List.range' (first.nextSequence now) j.issued.length).map
      (Flake.ofParts now first.worker.val) := by
  calc j.issued
      = j.issued.filter fun id => id.timestamp = now := (h.filter_of_frozen hfrozen).symm
    _ = (Flake.sequencesAt now j.issued).map (Flake.ofParts now first.worker.val) :=
        hascending.filter_timestamp now
    _ = _ := by
        rw [h.sequencesAt_of_frozen hfrozen, (h.sequences_of_frozen hascending hfrozen hle).2]

/-- A poll that gets no identifier is told that the millisecond is used up. It
has seen the last number. -/
theorem Answered.pending_of_frozen (h : j.Answered first) (hfrozen : j.Frozen now)
    (hle : first.timestamp ≤ now) (hmax : now ≤ Flake.maxTimestamp) {p : Span} (hp : p ∈ j.polls)
    (hnone : issued? p.result = none) :
    p.result = .ok (.pending 1) ∧
      ∃ seen ∈ first :: j.issued, seen.timestamp = now ∧ seen.sequence = Flake.maxSequence := by
  obtain ⟨seen, hseen, habout⟩ := h.about_of_frozen hfrozen hp
  have hseenLe : seen.timestamp ≤ now := by
    rcases List.mem_cons.mp hseen with rfl | hissued
    · exact hle
    · exact Nat.le_of_eq (h.timestamp_of_frozen hfrozen seen hissued)
  change p.result = (judge seen now).map Verdict.status at habout
  -- The word is not newer than the reading, and the reading fits, so two of
  -- the four answers are left.
  rcases judge_cases seen now with ⟨next, hjudge, -⟩ | ⟨hnow, hfull, hjudge⟩ | ⟨hnow, -⟩ |
    ⟨hnow, -⟩
  · rw [habout, hjudge] at hnone
    cases hnone
  · rw [hjudge] at habout
    exact ⟨habout, seen, hseen, hnow.symm, hfull⟩
  · omega
  · omega

/-- Once the last number of the millisecond was issued, or preloaded, all are
used. -/
theorem Answered.full_of_pending (h : j.Answered first) (hascending : j.Ascending first)
    (hfrozen : j.Frozen now) (hle : first.timestamp ≤ now) {seen : Flake}
    (hseen : seen ∈ first :: j.issued) (htimestamp : seen.timestamp = now)
    (hfull : seen.sequence = Flake.maxSequence) :
    first.nextSequence now + j.issued.length = Flake.maxSequence + 1 := by
  obtain ⟨hbound, -⟩ := h.sequences_of_frozen hascending hfrozen hle
  have hcount := congrArg List.length (Flake.sequencesAt_of_full hascending.succeeds hseen hfull)
  rw [htimestamp, h.sequencesAt_of_frozen hfrozen, List.length_map, List.length_range'] at hcount
  omega

/-- As many polls get an identifier as there are polls, or numbers left. -/
theorem Answered.length_of_frozen (h : j.Answered first) (hascending : j.Ascending first)
    (hfrozen : j.Frozen now) (hle : first.timestamp ≤ now) (hmax : now ≤ Flake.maxTimestamp) :
    j.issued.length
      = min j.polls.length (Flake.maxSequence + 1 - first.nextSequence now) := by
  have hpolls : j.issued.length ≤ j.polls.length := List.length_filterMap_le _ _
  obtain ⟨hbound, -⟩ := h.sequences_of_frozen hascending hfrozen hle
  by_cases hall : ∀ p ∈ j.polls, (issued? p.result).isSome = true
  · have hevery : j.issued.length = j.polls.length := List.filterMap_length_eq_length.mpr hall
    omega
  · -- Some poll has got none, so no number is left.
    obtain ⟨p, hp, hnone⟩ : ∃ p ∈ j.polls, issued? p.result = none := by
      simpa using hall
    obtain ⟨-, seen, hseen, htimestamp, hfull⟩ := h.pending_of_frozen hfrozen hle hmax hp hnone
    have hused := h.full_of_pending hascending hfrozen hle hseen htimestamp hfull
    omega

/-- A clock behind the first word issues nothing, so every poll has seen that
word. -/
theorem Answered.behind_of_frozen (h : j.Answered first) (hascending : j.Ascending first)
    (hfrozen : j.Frozen now) (hlt : now < first.timestamp) :
    j.issued = [] ∧ ∀ p ∈ j.polls, p.result = .ok (.behind (first.timestamp - now)) := by
  -- An identifier would be no earlier than the first word, and yet have the
  -- earlier reading.
  have hnothing : j.issued = [] := by
    refine List.eq_nil_iff_forall_not_mem.mpr ?_
    intro id hid
    have hle := Flake.timestamp_le_of_chain hascending.succeeds id hid
    rw [h.timestamp_of_frozen hfrozen id hid] at hle
    omega
  refine ⟨hnothing, ?_⟩
  intro p hp
  obtain ⟨seen, hseen, habout⟩ := h.about_of_frozen hfrozen hp
  rw [hnothing] at hseen
  cases List.mem_singleton.mp hseen
  change p.result = (judge first now).map Verdict.status at habout
  rw [habout, judge_earlier hlt]
  rfl

/-- Past the last timestamp every poll fails, whatever word it has seen. -/
theorem Answered.overflow_of_frozen (h : j.Answered first) (hfrozen : j.Frozen now)
    (hmax : Flake.maxTimestamp < now) :
    j.issued = [] ∧ ∀ p ∈ j.polls, p.result = .error (.error (.timestampOverflow now)) := by
  refine ⟨?_, ?_⟩
  · refine List.eq_nil_iff_forall_not_mem.mpr ?_
    intro id hid
    have hle := id.timestamp_le
    rw [h.timestamp_of_frozen hfrozen id hid] at hle
    omega
  · intro p hp
    obtain ⟨seen, -, habout⟩ := h.about_of_frozen hfrozen hp
    change p.result = (judge seen now).map Verdict.status at habout
    rw [habout, judge_beyond hmax]
    rfl

end Journal

/-- Take a generator of either kind, preloaded with a timestamp and a sequence
number, and any run of any number of callers over it in which the clock always
reads `now`. Count the polls that have ended.

In a later millisecond than the preloaded one 4096 of them get an identifier
each, or all when there are fewer, with the numbers 0, 1, 2 and so on. In the
preloaded millisecond they get the numbers after the preloaded one, as long as
there are any. All others are told to wait. When the clock is behind, every poll is told
by how much, and when it is past the last timestamp, every poll fails. -/
theorem issued_of_frozen_clock {kind : Kind} {worker : WorkerId} {timestamp sequence : Nat}
    {g : Generator} (hg : Generator.preloaded kind worker timestamp sequence = .ok g)
    {moves : List (Nat × Move)} {j : Journal} (hrun : (Journal.start g.cell).run moves = some j)
    {now : Nat} (hfrozen : ∀ r ∈ j.readings, r = .millis now) :
    (timestamp < now → now ≤ Flake.maxTimestamp →
      j.issued = (List.range (min j.polls.length (Flake.maxSequence + 1))).map
        (Flake.ofParts now worker.val) ∧
      ∀ p ∈ j.polls, issued? p.result = none → p.result = .ok (.pending 1)) ∧
    (now = timestamp →
      j.issued = (List.range' (sequence + 1) (min j.polls.length
        (Flake.maxSequence - sequence))).map (Flake.ofParts timestamp worker.val) ∧
      ∀ p ∈ j.polls, issued? p.result = none → p.result = .ok (.pending 1)) ∧
    (now < timestamp →
      j.issued = [] ∧ ∀ p ∈ j.polls, p.result = .ok (.behind (timestamp - now))) ∧
    (Flake.maxTimestamp < now →
      j.issued = [] ∧ ∀ p ∈ j.polls, p.result = .error (.error (.timestampOverflow now))) := by
  obtain ⟨⟨hfirst, hworker, hnumber⟩, hascending, hanswered⟩ := Journal.run_preloaded hg hrun
  refine ⟨?_, ?_, ?_, ?_⟩
  · intro hlater hmax
    -- A later millisecond begins with the number zero.
    rw [← hfirst] at hlater
    have hle := Nat.le_of_lt hlater
    refine ⟨?_, fun p hp hnone => (hanswered.pending_of_frozen hfrozen hle hmax hp hnone).1⟩
    have hlength := hanswered.length_of_frozen hascending hfrozen hle hmax
    have hissued := hanswered.issued_of_frozen hascending hfrozen hle
    rw [Flake.nextSequence_of_ne (Nat.ne_of_gt hlater)] at hlength hissued
    rw [hissued, hlength, hworker, Nat.sub_zero, List.range_eq_range']
  · rintro rfl
    have hle := Nat.le_of_eq hfirst
    have htimestamp := Nat.le_trans (Nat.le_of_eq hfirst.symm) (Flake.timestamp_le _)
    refine ⟨?_, fun p hp hnone => (hanswered.pending_of_frozen hfrozen hle htimestamp hp hnone).1⟩
    have hlength := hanswered.length_of_frozen hascending hfrozen hle htimestamp
    have hissued := hanswered.issued_of_frozen hascending hfrozen hle
    -- The preloaded one goes on with the number after the preloaded one.
    rw [Flake.nextSequence, if_pos hfirst.symm, hnumber] at hlength hissued
    rw [hissued, hlength, hworker, Nat.add_sub_add_right]
  · intro hlt
    rw [← hfirst] at hlt ⊢
    exact hanswered.behind_of_frozen hascending hfrozen hlt
  · exact hanswered.overflow_of_frozen hfrozen

/-- The last number of a millisecond is left. The second caller loses it to the
first, and comes back to find the millisecond used up. -/
def lastNumber : List (Nat × Move) :=
  [(0, .load), (1, .load), (0, .read (.millis 5)), (1, .read (.millis 5)), (0, .swap false),
    (1, .swap false), (1, .read (.millis 5)), (2, .load), (2, .read (.millis 5))]

/-- Three polls, one number left: one identifier, and two callers told to wait. -/
theorem issued_of_frozen_clock_lastNumber :
    ∃ g j, Generator.preloaded .lockFree ⟨7, by decide⟩ 5 4094 = .ok g ∧
      (Journal.start g.cell).run lastNumber = some j ∧ (∀ r ∈ j.readings, r = .millis 5) ∧
      j.polls.length = 3 ∧
      j.issued = (List.range' 4095 (min 3 1)).map (Flake.ofParts 5 7) ∧
      ∀ p ∈ j.polls, issued? p.result = none → p.result = .ok (.pending 1) := by
  have hrun : ∃ g j, Generator.preloaded .lockFree ⟨7, by decide⟩ 5 4094 = .ok g ∧
      (Journal.start g.cell).run lastNumber = some j ∧
      j.readings = [.millis 5, .millis 5, .millis 5, .millis 5] ∧ j.polls.length = 3 :=
    ⟨_, _, rfl, rfl, rfl, rfl⟩
  obtain ⟨g, j, hg, hj, hreadings, hlength⟩ := hrun
  have hfrozen : ∀ r ∈ j.readings, r = .millis 5 := by
    rw [hreadings]
    decide
  obtain ⟨-, hpreloaded, -⟩ := issued_of_frozen_clock hg hj hfrozen
  obtain ⟨hissued, hpending⟩ := hpreloaded rfl
  rw [hlength] at hissued
  exact ⟨g, j, hg, hj, hfrozen, hlength, hissued, hpending⟩

end Snowflake
